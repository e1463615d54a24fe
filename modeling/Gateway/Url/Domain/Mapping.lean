import Gateway.Text.Table

/-!
The forms that characters take in names: capitals become small, wide, circled and other dressed
characters become plain, ligatures fall apart, and characters that leave no trace are dropped.
-/

namespace Gateway.Url

/-- What becomes of the characters of a run. -/
inductive FormRule where
  /-- They become characters that follow one another too. -/
  | shift (first : Nat)
  /-- Every second one, from the first on, becomes its successor. -/
  | alternate
  /-- Each becomes the same text. -/
  | text (chars : List Char)
  deriving Repr, Inhabited

/-- Characters that change their form by one rule. -/
structure FormRun where
  start : Nat
  length : Nat
  rule : FormRule
  deriving Repr, Inhabited

namespace FormRun

/-- The characters of a word: numbers with points between them. -/
def charsOf (word : List Char) : List Char :=
  if word.isEmpty then []
  else ((String.ofList word).splitOn ".").map fun part => Char.ofNat (Text.number part.toList)

/-- Reads one run at a place. `n/` alternates over `n` pairs, `n>c` shifts `n` characters to `c` and
what follows it, `n=c.d` turns each of `n` characters into a text, and a text alone is the form of
one character. -/
def read (start : Nat) (word : List Char) : FormRun :=
  let isMark := fun (c : Char) => c = '/' || c = '>' || c = '='
  let count := Text.number (word.takeWhile fun c => !isMark c)
  match word.dropWhile fun c => !isMark c with
  | '/' :: _ => ⟨start, 2 * count, .alternate⟩
  | '>' :: first => ⟨start, count, .shift (Text.number first)⟩
  | '=' :: chars => ⟨start, count, .text (charsOf chars)⟩
  | _ => ⟨start, 1, .text (charsOf word)⟩

/-- Reads runs; `+n` leaves `n` characters as they are. -/
def readAll (start : Nat) : List (List Char) → List FormRun
  | [] => []
  | ('+' :: gap) :: rest => readAll (start + Text.number gap) rest
  | word :: rest =>
      let run := read start word
      run :: readAll (start + run.length) rest

def table : Array FormRun :=
  (readAll 0 ((Text.words lines).map String.toList)).toArray
where
  lines := [
    "+1t q>2p +1x w +7 w.lk +1 2p +2 1= +1 w.lg +2 2>1e w.ld qk +2 w.mf 1d 33 +1 1d.6dg.1g",
    "1d.6dg.1e 1f.6dg.1g +1 n>68 +1 7>6w +x o/ 2x.lj +1 2=2x.2y 2/ +1 3/ 2=30.53 4/ jg.32 n/ 73",
    "3/ 37 +1 gj 2/ gk aw +1 2>gm b0 +2 d9 gp gr b6 +1 gw gz +1 h5 h4 bd +3 hb he +1 hh 3/ hs bs",
    "+1 hv +2 bx +1 i0 c0 +1 2>i2 2/ ia c9 +3 cd +7 3=2s.am 3=30.2y 3=32.2y 8/ +1 9/ +1 3=2s.3e",
    "dx +1 b9 cf k/ bi +1 9/ +6 8rp fw +1 be 8rq +2 g2 +1 ao i1 i4 5/ +2o 2w h2 2y 36 hl hn ht 3b",
    "3d +v w.li w.lj w.lm w.mg w.lf w.ln +2 gz 30 37 3c id +2j 2>lc +1 lv lk.ld qh +9 1= +w 2/ jd",
    "+1 on +3 w.qh +3 1n s3 +4 w.ld w.lk.ld q4 53 3>q5 +1 r0 +1 2>r1 +1 h>q9 +1 9>qr +z rb qa qg",
    "qt r1 qz qu qo +1 c/ qi qp qr +1 qg qd +1 s8 +1 qr sb +2 3>or g>uo w>ts +1c h/ +8 r/ y7 7/",
    "+1 1c/ +1 12>129 +1c 12d.136 +6l 17r.19w 18o.19w 1c7.19w 18q.19w +kf 1sl.1to 1sm.1to 1sn.1to",
    "1ss.1to 1sx.1to 1sy.1to 1t7.1to 1tb.1to +3g 1wh.1x8 1wi.1x8 +1 1wv.1x8 +2b 20i.20s +2",
    "20o.20s +y 1zq.20s 1zr.20s 1zw.20s +2 20b.20s +71 275.27w 276.27w +k5 2tp.2sy +3j 2x9.2wi",
    "+14 2wb.2vt 2wb.2w1 +1a 2yz +1i 30i.33r +9 30s.33r +4 30x.33r +4 312.33r +4 317.33r +c",
    "30g.33p +9 31t.31u +1 31t.31w 33m.328 33m.31t.328 33n.328 33n.31t.328 +7 31t.328 +h 32q.33r",
    "+9 330.33r +4 335.33r +4 33a.33r +4 33f.33r +c 32o.33p +6e 12>8w0 +1 8x3 +5 8x9 +1a 3bw +2q",
    "2= +if 6>3xs +qe 2= +2d 5= +vk tu tw u6 2>u9 ua ui v7 wuj 5my +6 17>3bk +2 3>3ct +30 2p 6e",
    "2q +1 2>2s d9 8>2v +1 33 f7 34 36 2>38 3b 2p 2>gg 5qa 2q 2>2s gp 2>gr 2v +1 2z 31 97 33 gk",
    "2>5qu 34 2>38 5r1 hb 3a 5r9 3>qa 2>qu 2x 36 2>39 2>qa qp 2>qu +d u5 +y gi 2r gl 6o gs 2u gv",
    "gx h1 3>h4 5tn il h9 5tx in hd hc 4>he hk 2>hu bv 2>i1 5r0 2>i3 3e 3>i8 qg +1s 23/ +4 2p.ji",
    "601 +2 67 +1 1c/ +8 8>64g +8 6>64w +a 8>65c +8 8>65s +8 6>668 +b 66p +1 66r +1 66t +1 66v +8",
    "8>674 +1 q4 +1 q5 +1 q6 +1 q7 +1 r0 +1 r1 +1 r2 +2 64g.qh 64h.qh 64i.qh 64j.qh 64k.qh 64l.qh",
    "64m.qh 64n.qh 64g.qh 64h.qh 64i.qh 64j.qh 64k.qh 64l.qh 64m.qh 64n.qh 65c.qh 65d.qh 65e.qh",
    "65f.qh 65g.qh 65h.qh 65i.qh 65j.qh 65c.qh 65d.qh 65e.qh 65f.qh 65g.qh 65h.qh 65i.qh 65j.qh",
    "674.qh 675.qh 676.qh 677.qh 678.qh 679.qh 67a.qh 67b.qh 674.qh 675.qh 676.qh 677.qh 678.qh",
    "679.qh 67a.qh 67b.qh +2 67k.qh q9.qh q4.qh +2 69i.qh 2>69c 67k q4 q9.qh w.lv qh w.lv w.n6",
    "w.lk.n6 67o.qh qf.qh q6.qh +2 69y.qh 67m q5 67o q6 qf.qh w.lv.lc w.lv.ld w.lv.n6 +3 pc +4",
    "2>6a8 67q q7 +1 w.lw.lc w.lw.ld w.lw.n6 +3 q8 +4 2>6ao 67u r1 6at w.lk.lc w.lk.ld 2o +2",
    "67w.qh qx.qh r2.qh +2 6ba.qh 67s r0 67w r2 qx.qh w.ld w.lw +1 b=w 1= +5 6c0 +5 w.mr +n w +3",
    "6cy.6cy 6cy.6cy.6cy +1 6d1.6d1 6d1.6d1.6d1 +4 x.x +1 w.lh +8 1r.1r 1r.x x.1r +d",
    "6cy.6cy.6cy.6cy +7 w 5= +5 6= 1c 2x +2 6>1g 17 6qa 1p 2>14 32 a>1c 17 6qa 1p 2>14 +1 2p 2t",
    "33 3c gp 2w 4>2z 34 2>37 +b 36.37 +2f 2p.1b.2r 2p.1b.37 2r 4w.2r +1 2r.1b.33 2r.1b.39 gr +1",
    "4w.2u 2>2v 3=2w 87 2=2x 2=30 +1 32 32.33 +2 3>34 2=36 +2 37.31 38.2t.30 38.31 +1 3e +1 qx +1",
    "3e +1 2z 6d 2>2q +1 2=2t 2u 6ku 31 33 4>15c 2x +1 2u.2p.3c qo 2=qb qo 6q9 +4 2=2s 2t 2>2x +6",
    "1d.6dg.1j 1d.6dg.1l 1d.6dg.1d.1c 1d.6dg.1f 1e.6dg.1f 1d.6dg.1h 1e.6dg.1h 1f.6dg.1h 1g.6dg.1h",
    "1d.6dg.1i 1h.6dg.1i 1d.6dg.1k 1f.6dg.1k 1h.6dg.1k 1j.6dg.1k 1d.6dg 2x 2x.2x 2x.2x.2x 2x.3a",
    "3a 3a.2x 3a.2x.2x 3a.2x.2x.2x 2x.3c 3c 3c.2x 3c.2x.2x 30 2>2r 31 2x 2x.2x 2x.2x.2x 2x.3a 3a",
    "3a.2x 3a.2x.2x 3a.2x.2x.2x 2x.3c 3c 3c.2x 3c.2x.2x 30 2>2r 31 +3 6mc +5 1c.6dg.1f +4i",
    "6qz.6qz 6qz.6qz.6qz +1 6r2.6r2 6r2.6r2.6r2 +6w 2>9hk +8l 9>1d 1d.1c 1d.1d 1d.1e 1d.1f 1d.1g",
    "1d.1h 1d.1i 1d.1j 1d.1k 1d.1l 1e.1c 14.1d.15 14.1e.15 14.1f.15 14.1g.15 14.1h.15 14.1i.15",
    "14.1j.15 14.1k.15 14.1l.15 14.1d.1c.15 14.1d.1d.15 14.1d.1e.15 14.1d.1f.15 14.1d.1g.15",
    "14.1d.1h.15 14.1d.1i.15 14.1d.1j.15 14.1d.1k.15 14.1d.1l.15 14.1e.1c.15 +k 14.2p.15 14.2q.15",
    "14.2r.15 14.2s.15 14.2t.15 14.2u.15 14.2v.15 14.2w.15 14.2x.15 14.2y.15 14.2z.15 14.30.15",
    "14.31.15 14.32.15 14.33.15 14.34.15 14.35.15 14.36.15 14.37.15 14.38.15 14.39.15 14.3a.15",
    "14.3b.15 14.3c.15 14.3d.15 14.3e.15 q>2p q>2p 1c +10h 6qz.6qz.6qz.6qz +2v 1m.1m.1p 1p.1p",
    "1p.1p.1p +2t 8gt.mw +83 1c>8q8 +1c 8rl +1 h7 5tp hp +2 3/ gh hd gg gi +1 8s3 +2 8s6 +6 2y 3a",
    "2>fz 1e/ +7 2/ +3 8vn +3g 8yp +8f lal +2b vj3 +c feo ffs fg6 fgf fh5 fid fik fj4 fju g1r g2t",
    "g2z g3m g46 g4r g68 g6t g74 gbf ge1 get gey gfs gg1 ggs gh5 ghu gja gjs gkj h5j h7j hkb hky",
    "hl6 hlh hlz ho3 i1c i2o i60 i6n i76 i7s i9a i9d ijf ijp ik1 ike inm inu inz ir8 iri irv is3",
    "its iu9 iur iwz jd4 jee jez jzj jzo k1z k2f k2s k3d k4g k4l kc0 kco kdk l5s l7m l89 l9v laj",
    "las laz lcf lck ldg m7f mju mk6 mkb mkf mkn ml5 ml7 mng mtg mtl n30 n3a n4o n4v n54 n5c n7v",
    "n82 nee nel nfy ngf nhq nob noi noz ny2 o1k o1q o6s o97 oah okz ooo p4m p5d p6y p8d pa9 pak",
    "paq pbn pdr pe1 pnn pnu po3 poc pos pp7 ppb pri prm prs qj1 qjv qww qx8 qxv r5q r63 r82 r9c",
    "rp3 rpi rpx rqw rrx rxg rxs rzn s6j s7e sd7 sds sdx sk1 sp5 ssm sss ssx tiv tj4 tng trq trt",
    "tt4 tw1 twe twi twp tzf u0d u0j u0x u5k u6z u73 uc6 uc9 ucs ujs ul4 ulb un9 unj unm unw uoq",
    "uzp vat vb3 vc5 vcr vcz vd9 vdd veh vel vf2 vf7 vfk vgb vgq vgy vil vj0 vj4 +16 w +1 1a +1f",
    "9hu +1 gg1 2>gg4 +2o w.9ll w.9lm +2 9l4.9l6 +2n 9mb.9mw +1d 2>3cw 3hm 3cy 2>3ho 3>3cz 6>3hs",
    "3dm 3>3d2 3dt a>3d5 l>3fl 1= 2>3dg 2>3if 3ik 3im 3ir 3iv 3ix 3do 3j1 3j3 2>3dp 3ds 2>3du 3dz",
    "3e1 5>3e3 3ea 3ee 3eo 3ev 3f0 2>3jl 3>3fb 2>3gk 3go 2>3gx 3h0 3ha 3hd +3 feo fik fex h5n fey",
    "ffx fez n5e fh5 ffd fep hm1 h80 fju +2o 14.3cw.15 14.3cy.15 14.3cz.15 14.3d1.15 14.3d2.15",
    "14.3d3.15 14.3d5.15 14.3d7.15 14.3d8.15 14.3da.15 14.3db.15 14.3dc.15 14.3dd.15 14.3de.15",
    "14.xz4.15 14.yvs.15 14.zc4.15 14.108s.15 14.10p4.15 14.115g.15 14.1224.15 14.12ys.15",
    "14.13f4.15 14.14bs.15 14.14s4.15 14.158g.15 14.15os.15 14.1654.15 14.13p8.15 14.1350.13ic.15",
    "14.1350.16f8.15 +1 14.feo.15 14.fik.15 14.fex.15 14.h5n.15 14.fis.15 14.g31.15 14.fer.15",
    "14.g2z.15 14.fh9.15 14.gg1.15 14.kco.15 14.m7f.15 14.ldg.15 14.kdk.15 14.ssx.15 14.h7j.15",
    "14.k4l.15 14.kkq.15 14.kcp.15 14.ny6.15 14.glp.15 14.mm1.15 14.rs1.15 14.nz1.15 14.gc4.15",
    "14.fkz.15 14.gos.15 14.i1y.15 14.nhf.15 14.flt.15 14.rt3.15 14.ggk.15 14.nzh.15 14.fm9.15",
    "14.pnu.15 14.po3.15 gun inw k1z oen +8 34.38.2t 1e.1d 1e.1e 1e.1f 1e.1g 1e.1h 1e.1i 1e.1j",
    "1e.1k 1e.1l 1f.1c 1f.1d 1f.1e 1f.1f 1f.1g 1f.1h 3cw 2>3cy 3>3d1 3d5 2>3d7 5>3da xz4 yvs zc4",
    "108s 10p4 115g 1224 12ys 13f4 14bs 14s4 158g 15os 1654 14c8.y5c 13p8.13dk 138w +1 feo fik",
    "fex h5n fis g31 fer g2z fh9 gg1 kco m7f ldg kdk ssx h7j k4l kkq kcp ny6 glp mm1 rs1 nz1 gc4",
    "o2g n5j ho3 six g16 ghc lig u11 fm9 g49 l7n fey ffx fez ijq gkz gfv i3b i1y nhf flt rt3 ggk",
    "hlo 1f.1i 1f.1j 1f.1k 1f.1l 1g.1c 1g.1d 1g.1e 1g.1f 1g.1g 1g.1h 1g.1i 1g.1j 1g.1k 1g.1l",
    "1h.1c 1d.kco 1e.kco 1f.kco 1g.kco 1h.kco 1i.kco 1j.kco 1k.kco 1l.kco 1d.1c.kco 1d.1d.kco",
    "1d.1e.kco 2w.2v 2t.36.2v 2t.3a 30.38.2s 9lu 9lw 9ly 9m0 2>9m2 9m5 9m7 9m9 9mb 9md 9mf 9mh",
    "9mj 9ml 9mn 9mp 9ms 9mu 9mw 6>9my 9n6 9n9 9nc 9nf 5>9ni 9no 9nq 6>9ns 4>9nz fl0.gp8",
    "9lu.9n5.9oc.9mw 9lu.9nv.9n9.9lt 9lu.9o3.9ne.9lu 9lu.9oc.9nv 9lw.9mz.9o3.9m8 9lw.9o3.9mp",
    "9ly.9m1.9o3 9m0.9mh.9m7.9oc.9mx 9m0.9oc.9m3.9oc 9m2.9o3.9mh 9m2.9oc.9nk 9m3.9lw.9nu",
    "9m3.9nt.9mr.9mw 9m3.9nx.9nu.9oc 9m4.9nx.9o3 9m4.9o3.9ni 9m6.9m4 9m6.9mz.9oc 9m5.9np.9nu.9oc",
    "9m6.9nv.9mo.9oc 9m5.9nx 9m5.9nx.9m8.9nt.9nk 9m5.9nx.9nl.9oc.9mw.9nv 9m5.9nx.9nz.9mr.9mw",
    "9m8.9nt.9nk 9m8.9nt.9nk.9mw.9o3 9m7.9nv.9mk.9lw.9nx 9m7.9nx.9oc.9n1 9m9.9oc.9mh 9mb.9nv.9my",
    "9mb.9oc.9nh 9md.9lw.9m7.9nv 9md.9o3.9mp.9oc.9nk 9mf.9nu.9o3.9m8 9mj.9o3.9mp 9mj.9o3.9mw",
    "9mo.9oc.9mh 9mv.9mf 9mx.9nv 9mw.9o3 9my.9n2 9n2.9mr.9mw 9n3.9lw.9ms 9n5.9oc.9mj.9o3.9mw",
    "9n5.9oc.9ms 9n4.9oc.9nw.9nv 9n8.9lu.9mh.9mw.9nv 9n8.9m7.9nv 9n8.9mb 9n7.9nv",
    "9n9.9lt.9nt.9mr.9mx 9n9.9lv.9oc.9mw 9na.9mr.9mf.9lz.9nv 9n9.9nt.9o3 9nc.9m7.9mn.9oc.9nv",
    "9ne.9ml 9ne.9mz.9n6 9nc.9nv.9ms 9ne.9o3.9mh 9ne.9oc.9mg 9nd.9oc.9mn 9nh.9lw.9o3.9mw",
    "9ng.9nv.9mw 9nf.9o3 9nh.9o3.9mx 9nf.9oc.9nv 9nf.9oc.9o3 9ni.9lw.9m7.9nx 9ni.9lw.9nv",
    "9ni.9mr.9n3 9ni.9nv.9m7 9ni.9o3.9mf.9nr.9o3 9nj.9m7.9nx.9o3 9nj.9nu 9nj.9nu.9n4.9oc.9nv",
    "9nl.9m4 9nl.9m4.9mw.9o3 9nl.9oc.9mw.9nv 9no.9oc.9mx 9no.9oc.9nv 9nq.9lu.9o3 9nu.9mr.9mw.9nv",
    "9nu.9nt 9nv.9n8.9oc 9nv.9oc.9na.9nv 9nw.9nk 9nw.9o3.9mw.9ma.9o3 9nz.9mr.9mw 1c.m9l 1d.m9l",
    "1e.m9l 1f.m9l 1g.m9l 1h.m9l 1i.m9l 1j.m9l 1k.m9l 1l.m9l 1d.1c.m9l 1d.1d.m9l 1d.1e.m9l",
    "1d.1f.m9l 1d.1g.m9l 1d.1h.m9l 1d.1i.m9l 1d.1j.m9l 1d.1k.m9l 1d.1l.m9l 1e.1c.m9l 1e.1d.m9l",
    "1e.1e.m9l 1e.1f.m9l 1e.1g.m9l 2w.34.2p 2s.2p 2p.39 2q.2p.36 33.3a 34.2r 2s.31 2s.31.1e",
    "2s.31.1f 2x.39 inn.jdc k6l.gp8 hlz.l7n k5q.lh7 kkq.irz.fmi.ny6 34.2p 32.2p qk.2p 31.2p 2z.2p",
    "2z.2q 31.2q 2v.2q 2r.2p.30 2z.2r.2p.30 34.2u 32.2u qk.2u qk.2v 31.2v 2z.2v 2w.3e 2z.2w.3e",
    "31.2w.3e 2v.2w.3e 38.2w.3e qk.30 31.30 2s.30 2z.30 2u.31 32.31 qk.31 31.31 2r.31 2z.31",
    "31.31.1e 2r.31.1e 31.1e 2z.31.1e 31.31.1f 2r.31.1f 31.1f 2z.31.1f 31.6qd.37 31.6qd.37.1e",
    "34.2p 2z.34.2p 31.34.2p 2v.34.2p 36.2p.2s 36.2p.2s.6qd.37 36.2p.2s.6qd.37.1e 34.37 32.37",
    "qk.37 31.37 34.3a 32.3a qk.3a 31.3a 2z.3a 31.3a 34.3b 32.3b qk.3b 31.3b 2z.3b 31.3b 2z.qx",
    "31.qx +1 2q.35 2r.2r 2r.2s 2r.6qd.2z.2v +1 2s.2q 2v.3d 2w.2p 2w.34 2x.32 2z.2z 2z.31 2z.38",
    "30.31 30.32 30.33.2v 30.3c 31.2q 31.2x.30 31.33.30 34.2w +1 34.34.31 34.36 37.36 37.3a 3b.2q",
    "3a.6qd.31 2p.6qd.31 1d.k4l 1e.k4l 1f.k4l 1g.k4l 1h.k4l 1i.k4l 1j.k4l 1k.k4l 1l.k4l 1d.1c.k4l",
    "1d.1d.k4l 1d.1e.k4l 1d.1f.k4l 1d.1g.k4l 1d.1h.k4l 1d.1i.k4l 1d.1j.k4l 1d.1k.k4l 1d.1l.k4l",
    "1e.1c.k4l 1e.1d.k4l 1e.1e.k4l 1e.1f.k4l 1e.1g.k4l 1e.1h.k4l 1e.1i.k4l 1e.1j.k4l 1e.1k.k4l",
    "1e.1l.k4l 1f.1c.k4l 1f.1d.k4l 2v.2p.30 +mkg n/ +i e/ ui uk +3o 7/ +2 v/ x2n +8 2/ 5tl 5/ +3",
    "x3g +1 h1 +2 2/ +2 a/ h2 gs gx h8 h6 +1 im hz il xub 8/ x3o hu 5u6 2/ h0 8/ bf +k 37 2r 2u",
    "35 x6e +2 87 9f +o2 x0n xtj h7 xua +9 i5 +6 28>3vk +f9c rpk kc4 s7e rt4 lw1 fg2 gkl 2=vj0",
    "hn5 ssx gw7 hmw jcm ne1 p6t qin qt6 r20 sjz kxu ljv mah mvy q4d sq2 uep fia ghh l50 mjf qi5",
    "v8e ifk m3v qfh r50 jih pnc qvz iq2 kd3 lm2 mpo slq fpi g53 gda jwk l3n mj4 nhj pa9 qh2 qjg",
    "s1b tv6 upb v7e nt8 nzz otc q15 t1g vb3 rfa hjz iro okg pdq mle nuy rsy ttj hjs i8y kyb lp6",
    "lxr oq7 oxj tor gcy pe3 g64 g5o o4c ou6 q29 tpx rk0 jin kxu rge fg9 i5j iz6 mtj n74 gev nwb",
    "fr3 iw9 ff1 lho k1k opu gjn hge ni9 q4p re2 la2 sds lfs jjy put jog n6t fji g2x g5l kn5 oo7",
    "prj rf6 ssv gdx gn6 ho3 ir0 k3p m4e nxm tkd ui2 vbr vda gbf kau l87 sbm ino j9s jcw jve lyb",
    "mdl n0p o22 ovo pdb s9y q9a sgz t3e g7r gbn gql ma0 r0i re2 iq1 iyd jnf l9q oji mt1 fl0 h6h",
    "i5j iii izg muq mzt p7e pc6 svo tti tvs u1k fpn o1a ss4 trs j4x fie fyy i5q i7z k2h kxu mha",
    "ncy q9o sjg vil k94 tny gax kfv kj7 lkx luk mx5 n6h nsb opc u3i g31 je6 tq0 fu3 ie1 lpm sa2",
    "ivf j7o kk7 mtj tqe g89 glr i91 k5v kem ko8 lid mx2 naa p6h r0v r1d sss tsy gfz lve gm5 mhc",
    "n14 qgq tr7 uvr vbz kgn lor pns o97 obk olu mo0 m8p riw fk0 px2 g8q g7b ip2 jir onq i2t ljy",
    "kac saj qx8 tot r63 iqb g1s gxs +2 hga +1 k8k +2 g66 mqy ngq ny4 nz2 nz9 o0f tw6 on2 p8d +1",
    "qhe +1 rg8 +2 shk sn1 +3 u7j u7w u94 v5g sm6 trr fqm fzb g25 gcp gdg ggh gwt gzq h2g hfk hig",
    "i90 i9a j2s j8o j9q jci k0f k4i k9d kn9 lmf lqy lya mem mjv mxu ntd ny6 nyh nyg nyo nyu nz1",
    "2>o0d o5c o75 og0 ovo ow9 oxt p6a pad pnx 2=prt q53 r2o r6e rgh ri1 rtf ruw sdy shk tsz u0v",
    "u2j j1x 36cu pp4 +2 ffq g51 g2w fpc g1x g3k gcn ge2 gwt gut gwp gyq hga hir hms hn8 huq i08",
    "iqa iqh iuh iwd j4o j7y j60 j9q j8g jci jec jpg jrw jte k0m k8k kd3 kd7 keu l89 la2 lkx lwb",
    "lvv lya m5a mem nmv mk5 mnj mqy n01 n46 n5n nbx nbz ngq nh7 nhw nka nk0 nv0 o8h og0 ol7 orf",
    "ovo p4u pad pxu q27 qrd r41 r5y r6e ren rg8 rez rgh rge rfx ri1 rka ruw sag sj6 srd sxi tq4",
    "tsz tw6 tzv u0v u17 u2j umq vj0 313e 3138 33dh brx cns cop 39e1 3bgw 3i6r vgj vim +12 2u.2u",
    "2u.2x 2u.30 2u.2u.2x 2u.2u.30 2=37.38 +c 12s.12u 12s.12d 12s.12j 132.12u 12s.12l +5 15l.14k",
    "+1 16a.14n 15u 15c 2>15f 3>15n 160 162 17 161.14x 161.14y 161.14s.14x 161.14s.14y 15c.14n",
    "15c.14o 15c.14s 15d.14s 15e.14s 15f.14s 15g.14s 15h.14s 15i.14s +1 15k.14s 15l.14s 15m.14s",
    "15n.14s 15o.14s +1 15q.14s +1 15s.14s 15t.14s +1 15v.14s 15w.14s +1 15y.14s 15z.14s 160.14s",
    "161.14s 162.14s 15h.14p 15d.14v 15n.14v 15w.14v 15c.15o 2=19t 4=1a3 4=1a6 4=1a8 4=1a2 4=1a7",
    "4=1a1 4=1b8 4=1ba 4=1ac 4=1ab 4=1ae 4=1af 2=1al 2=1ak 2=1am 2=1ag 2=1aw 2=1ap 4=1bd 4=1bj",
    "4=1bn 4=1bl 2=1bu 4=1bv 2=1c0 4=1c1 4=1by 2=1ci 2=1cj +x 4=1bh 2=1c7 2=1c6 2=1c8 1c7.19w",
    "2=1cb 2=1c5 2=1c9 4=1cg 2=18p 2=17q.17r 2=17q.1cl 2=17q.18o 2=17q.1c7 2=17q.1c6 2=17q.1c8",
    "3=17q.1cg 3=17q.18p 4=1cc 17q.17w 17q.17x 17q.18l 17q.18p 17q.18q 17s.17w 17s.17x 17s.17y",
    "17s.18l 17s.18p 17s.18q 17u.17w 17u.17x 17u.17y 17u.18l 17u.18p 17u.18q 17v.17w 17v.18l",
    "17v.18p 17v.18q 17w.17x 17w.18l 17x.17w 17x.18l 17y.17w 17y.17x 17y.18l 183.17w 183.17x",
    "183.17y 183.18l 185.17x 185.18l 186.17w 186.17x 186.17y 186.18l 187.17x 187.18l 188.18l",
    "189.17w 189.18l 18a.17w 18a.18l 18h.17w 18h.17x 18h.17y 18h.18l 18h.18p 18h.18q 18i.17x",
    "18i.18l 18i.18p 18i.18q 18j.17r 18j.17w 18j.17x 18j.17y 18j.18k 18j.18l 18j.18p 18j.18q",
    "18k.17w 18k.17x 18k.17y 18k.18l 18k.18p 18k.18q 18l.17w 18l.17x 18l.17y 18l.18l 18l.18p",
    "18l.18q 18m.17w 18m.17x 18m.17y 18m.18l 18m.18p 18m.18q 18n.17w 18n.18l 18n.18p 18n.18q",
    "18q.17w 18q.17x 18q.17y 18q.18l 18q.18p 18q.18q 180.19s 181.19s 18p.19s w.18s.18x w.18t.18x",
    "w.18u.18x w.18v.18x w.18w.18x w.18x.19s 17q.181 17q.182 17q.18l 17q.18m 17q.18p 17q.18q",
    "17s.181 17s.182 17s.18l 17s.18m 17s.18p 17s.18q 17u.181 17u.182 17u.18l 17u.18m 17u.18p",
    "17u.18q 17v.181 17v.182 17v.18l 17v.18m 17v.18p 17v.18q 18h.18p 18h.18q 18i.18p 18i.18q",
    "18j.17r 18j.18k 18j.18l 18j.18p 18j.18q 18k.18l 18k.18p 18k.18q 18l.17r 18l.18l 18m.181",
    "18m.182 18m.18l 18m.18m 18m.18p 18m.18q 18p.19s 18q.181 18q.182 18q.18l 18q.18m 18q.18p",
    "18q.18q 17q.17w 17q.17x 17q.17y 17q.18l 17q.18n 17s.17w 17s.17x 17s.17y 17s.18l 17s.18n",
    "17u.17w 17u.17x 17u.17y 17u.18l 17u.18n 17v.18l 17w.17x 17w.18l 17x.17w 17x.18l 17y.17w",
    "17y.18l 183.17w 183.17x 183.17y 183.18l 185.17x 185.17y 185.18l 186.17w 186.17x 186.17y",
    "186.18l 187.17x 188.18l 189.17w 189.18l 18a.17w 18a.18l 18h.17w 18h.17x 18h.17y 18h.18l",
    "18i.17x 18i.18l 18j.17w 18j.17x 18j.17y 18j.18k 18j.18l 18k.17w 18k.17x 18k.17y 18k.18l",
    "18k.18n 18l.17w 18l.17x 18l.17y 18l.18l 18m.17w 18m.17x 18m.17y 18m.18l 18m.18n 18n.17w",
    "18n.18l 18n.19s 18q.17w 18q.17x 18q.17y 18q.18l 18q.18n 17q.18l 17q.18n 17s.18l 17s.18n",
    "17u.18l 17u.18n 17v.18l 17v.18n 183.18l 183.18n 184.18l 184.18n 18j.18k 18j.18l 18k.18l",
    "18m.18l 18m.18n 18q.18l 18q.18n 18g.18u.18x 18g.18v.18x 18g.18w.18x 187.18p 187.18q 189.18p",
    "189.18q 18a.18p 18a.18q 183.18p 183.18q 184.18p 184.18q 17x.18p 17x.18q 17w.18p 17w.18q",
    "17y.18p 17y.18q 185.18p 185.18q 186.18p 186.18q 184.17w 184.17x 184.17y 184.18l 184.181",
    "183.181 185.181 186.181 187.18p 187.18q 189.18p 189.18q 18a.18p 18a.18q 183.18p 183.18q",
    "184.18p 184.18q 17x.18p 17x.18q 17w.18p 17w.18q 17y.18p 17y.18q 185.18p 185.18q 186.18p",
    "186.18q 184.17w 184.17x 184.17y 184.18l 184.181 183.181 185.181 186.181 184.17w 184.17x",
    "184.17y 184.18l 183.18n 184.18n 187.18l 183.17w 183.17x 183.17y 184.17w 184.17x 184.17y",
    "187.18l 188.18l 2=17r.18r +i 17u.17w.18l 2=17u.17x.17w 17u.17x.18l 17u.17y.18l 17u.18l.17w",
    "17u.18l.17x 17u.18l.17y 2=17w.18l.17x 17x.18l.18q 17x.18l.18p 183.17x.17w 183.17w.17x",
    "183.17w.18p 2=183.18l.17x 183.18l.17w 2=183.18l.18l 2=185.17x.17x 185.18l.18l 2=184.17x.18l",
    "184.17w.18q 2=184.18l.17y 2=184.18l.18l 186.17x.18p 2=186.17y.18l 2=187.18l.17x 187.18l.18l",
    "187.18l.18q 189.17w.18l 2=189.18l.18l 189.18l.18p 18a.18l.18l 18a.18l.18q 18a.18l.18p",
    "2=18h.17y.18l 18i.18l.17x 18i.18l.18l 18k.17x.18l 18k.17x.18q 18k.17x.18p 2=18k.17w.17w",
    "2=18k.17y.18l 2=18k.18l.17x 18l.17x.17w 18l.17x.18l 18l.17x.18q 18l.17w.17x 18l.17w.18l",
    "18l.17y.17w 18l.17y.18l +2 18l.17w.17y 18n.18l.17w 18n.18l.18l 18m.17x.18l 18m.17x.18p",
    "2=18m.17w.18l 18m.17w.18p 18m.18l.18q 18m.18l.18p 2=18q.18l.18l 17s.17y.18q 17u.17w.18q",
    "17u.17w.18p 17u.17y.18q 17u.17y.18p 17u.18l.18q 17u.18l.18p 17w.18l.18q 17w.17x.18p",
    "17w.18l.18p 183.17y.18p 185.17x.18q 184.17x.18q 186.17x.18q 18k.17w.18q 18k.18l.18q",
    "18q.17x.18q 18q.17w.18q 18q.18l.18q 18l.18l.18q 18i.18l.18q 18m.17x.18q 18i.18l.17x",
    "18k.17x.18l 189.18l.18q 18j.18l.18q 18m.17w.17x 18l.17y.18q 18k.17w.18l 18j.18l.18l",
    "18k.17w.18l 18m.17w.17x 17w.17x.18q 17x.17w.18q 18l.17w.18q 18h.18l.18q 17s.17x.18q",
    "18j.18l.18l 189.17w.18l 185.18l.18l 183.17y.18q 18m.17w.18q +14 185.18k.1ci 18i.18k.1ci",
    "17r.18k.18k.18n 17r.18j.17s.181 18l.17x.18l.17z 185.18k.189.18l 181.183.18o.18k",
    "189.18k.18q.18n 18o.183.18k.18l 185.18k.18p",
    "185.18k.18p.w.17r.18k.18k.18n.w.189.18k.18q.18n.w.18o.183.18k.18l",
    "17w.18k.w.17w.18k.17r.18k.18n 181.1cc.17r.18k +3 g= 18 9hd +1 2>1m x 1r 2>9hy +o 6c4 6c3",
    "2=2n 2>14 3f 3h 2>9hw 2>9hs 2>9hm 2>9hk 4>9ho +2 2j 2l 4=w.lh 3=2n 18 9hd +2 1n 1m 1r x 6c4",
    "2>14 3f 3h 2>9hw z 12 2>16 19 1o 1q 1p +1 2k 2>10 1s +4 w.18r 18g.18r w.18s +1 w.18t +1",
    "w.18u 18g.18u w.18v 18g.18v w.18w 18g.18w w.18x 18g.18x w.18y 18g.18y 2>17l 2>17m 2>17n",
    "2>17o 2>17p 3=17q 2=17r 4=17s 2=17t 4=17u 4=17v 4=17w 4=17x 4=17y 2=17z 2=180 2=181 2=182",
    "4=183 4=184 4=185 4=186 4=187 4=188 4=189 4=18a 4=18h 4=18i 4=18j 4=18k 4=18l 4=18m 4=18n",
    "2=18o 2=18p 4=18q 2=18k.17m 2=18k.17n 2=18k.17p 2=18k.17r +2 1= +1 w>x q>2p 10>2j 2>879 1a",
    "2>9ho 9hd 9ob 9o2 9lt 9lv 9lx 9lz 9m1 9nn 9np 9nr 9mr 9oc 9lu 9lw 9ly 9m0 2>9m2 9m5 9m7 9m9",
    "9mb 9md 9mf 9mh 9mj 9ml 9mn 9mp 9ms 9mu 9mw 6>9my 9n6 9n9 9nc 9nf 5>9ni 9no 9nq 6>9ns 9nz",
    "9o3 2>9ll 1= 2>3cw 3hm 3cy 2>3ho 3>3cz 6>3hs 3dm 3>3d2 3dt a>3d5 +3 6>3fl +2 6>3fr +2 6>3fx",
    "+2 3>3g3 +3 2>4i 4s w.lg 4m 4l 6g9 +1 7b6 4>6mo 7fk 7gr +sx 14>1fe0 +3s 10>1fiw +4c b>1fo7",
    "+1 f>1foj +1 7>1foz +1 2>1fp7 +dn 2>k0 6e ih gj +1 ir xuu it is 2>gm 5u9 go gu ix h0 gy gw",
    "ij 87 ik h3 hw 2>iy h8 2mmc x3i ha 2mmd i6 2mme 6w 2>hi 35 hm 2mmg 2>hp hs iw iu xuv iv i0",
    "8s1 +1 i7 2>ip ig 3>cg 2mmi 2mn2 +xx 1f>1h34 +4d m>1h80 +27u w>1jgg +gw0 w>20dc +1s p>20fv",
    "+fdz 4= +376 q>2p a>1c +v8 2jx3.2jxh 2jx4.2jxh 2jx4.2jxh.2jxq 2jx4.2jxh.2jxr 2jx4.2jxh.2jxs",
    "2jx4.2jxh.2jxt 2jx4.2jxh.2jxu +e 8= +1s 2jzt.2jxh 2jzu.2jxh 2jzt.2jxh.2jxq 2jzu.2jxh.2jxq",
    "2jzt.2jxh.2jxr 2jzu.2jxh.2jxr +fz q>2p q>2p q>2p 7>2p +1 i>2x q>2p q>2p 2p +1 2>2r +2 2v +2",
    "2>2y +2 4>32 +1 8>37 4>2p +1 2u +1 7>2w +1 b>34 q>2p q>2p 2>2p +1 4>2s +2 8>2y +1 7>37 +1",
    "q>2p 2>2p +1 4>2s +1 5>2x +1 33 +3 7>37 +1 q>2p q>2p q>2p q>2p q>2p q>2p q>2p q>2p q>2p q>2p",
    "q>2p q>2p q>2p 8h fr +2 h>q9 qg 7>qr 6pz h>q9 2=qr 6>qs 6pu qd qg qi qu qp qo h>q9 qg 7>qr",
    "6pz h>q9 2=qr 6>qs 6pu qd qg qi qu qp qo h>q9 qg 7>qr 6pz h>q9 2=qr 6>qs 6pu qd qg qi qu qp",
    "qo h>q9 qg 7>qr 6pz h>q9 2=qr 6>qs 6pu qd qg qi qu qp qo h>q9 qg 7>qr 6pz h>q9 2=qr 6>qs 6pu",
    "qd qg qi qu qp qo 2=rh +2 a>1c a>1c a>1c a>1c a>1c +1m8 9>ts 3>u2 b>u6 uj 2>ul ww9 yh uu uw",
    "yx xb y7 9>ts 2>u2 2>u6 u9 6>ub 2>ui wh uu ut v3 x7 wup xd +1oy y>2oma +ym 2>17r 17w 17z +1",
    "18o 182 17x 187 18q 4>18j 183 189 18h 185 18i 181 184 2>17u 17y 180 186 188 18a 19q 1bu 1b5",
    "19r +1 17s 17w +1 18n +2 17x +1 18q 4>18j 183 189 18h 185 18i +1 184 2>17u 17y +1 186 +1 18a",
    "+6 17w +4 17x +1 18q +1 18k +1 18m 183 189 +1 185 18i +1 184 +2 17y +1 186 +1 18a +1 1bu +1",
    "19r +1 17s 17w +1 18n +2 17x 187 18q 18j +1 2>18l 183 189 18h 185 18i +1 184 2>17u 17y +1",
    "186 188 18a 19q +1 1b5 +1 2>17r 17w 17z 2>18n 182 17x 187 18q +1 3>18k 183 189 18h 185 18i",
    "181 184 2>17u 17y 180 186 188 18a +5 17s 17w 17z +1 18o 182 17x 187 18q +1 3>18k 183 189 18h",
    "185 18i 181 184 2>17u 17y 180 186 188 18a +g5 1c.18 1d.18 1e.18 1f.18 1g.18 1h.18 1i.18",
    "1j.18 1k.18 1l.18 +5 14.2p.15 14.2q.15 14.2r.15 14.2s.15 14.2t.15 14.2u.15 14.2v.15 14.2w.15",
    "14.2x.15 14.2y.15 14.2z.15 14.30.15 14.31.15 14.32.15 14.33.15 14.34.15 14.35.15 14.36.15",
    "14.37.15 14.38.15 14.39.15 14.3a.15 14.3b.15 14.3c.15 14.3d.15 14.3e.15 9hw.37.9hx 2r 36",
    "2r.2s 3b.3e +1 q>2p 2w.3a 31.3a 37.2s 37.37 34.34.3a 3b.2r +q 31.2r 31.2s 31.36 +z 2s.2y +33",
    "9kr.9jf 9mb.9mb 9md +d jez i1j gjw 9mv fik hlm r8j hm1 fj8 k68 mch k2h g99 ivg g3x k34 g7x",
    "oqq n4v rs9 hkg gmx lxw jh1 jmd feo fex si2 ijq ffx gkz jk7 rxs jf7 o01 o6y glk lts kcp kco",
    "n5f gaa gxi sp9 +4 9hw.kdo.9hx 9hw.fex.9hx 9hw.fik.9hx 9hw.i2x.9hx 9hw.m9l.9hx 9hw.jf7.9hx",
    "9hw.nh3.9hx 9hw.gd9.9hx 9hw.k0n.9hx +7 ivr gkv +1we a>1c +1ds6 fgd fg8 fgh 2tcy fog fqm fqz",
    "fsy fwa fx5 fzb fyn ae6 2ud6 g25 g2c g2s g3b 2u58 aex g2v g3x 2u6j g47 g4k fkc g4s g51 3ly7",
    "g6t g77 afz g8r g92 gaa gaf ahh gcn gcp gdg ge2 2>ged gev gg9 ggh ggq ghf ghp 3=ghr 2v58 m7k",
    "gju gkf 2vdv gkr gkx gli gpq gmw gnc go8 gpu gs6 gsw gur gv7 2=gw4 gwp gx7 gxf gxu h7a gzq",
    "h7b h1t h2s g7b hke hce hdg he5 haj hf6 hf5 hik 2x9g hki hkn hl2 hlm hlu hnm 2xm0 2xnu hrg",
    "hsr ht3 hqw huu aum av0 hzc 2=i0u 2y88 i4j i54 i5j i5v 2yhk i67 i6e itv i76 ayp i8w i9a ibk",
    "ia5 2z1g if7 2z1i ige igb igs 2>ijl b3j ikd ilk im5 ind b4y 2zr7 b5o ipc ipf ipi iq2 3pg2",
    "iri 2=3035 poh 2=isi b7r 335k 3cgq iua iuj b8j ivu ix9 ixj iyh j29 bay ba4 j2s 30t0 j47 j7s",
    "j7w j7y j7w j96 j9q jaq jac jan jby jci jcm jdc jdn jfh jht jis jm8 31n0 jlp jjw jmw jnn jqc",
    "31td js2 jph jop bhq ju1 jum jvh juf bjg k0f k18 32mi k4j kc8 k7d bo9 k9d bns bms g42 g45",
    "kcg k9o pf1 deh kd3 kd7 kdd kf2 ker 33cz bpl kje kg5 klu kn9 33hp kni kkf kr8 brx ksi kv7",
    "kx6 l2g 33xf l3v bvc l5t 34br l78 bwu l82 l9b 2>la2 34p9 2yvf 34sa le6 354s lhb lhp lev ljq",
    "lku lmf lkx lm1 lmg lmt 357i lkk lrj lta c37 lvv lvr 35jl lq1 m0e 35ni 35ou m2u m61 m5a m57",
    "c5y m6i m7x m7r m99 2u5h mdh 368z mfw 36i3 mjs mk5 mkw 36yw mm8 mmt 3779 37dg mt6 mtn cdo",
    "mud 2=ce0 myv mzg n01 n0l n2i cgr n50 386u n5q 389e n74 2zrz nbk 38v5 38vs 38zo cn0 cnc nhw",
    "394j 394i 395l 396b 2>nj2 nj3 nka cop nm3 cp2 cra 39r1 nri nt8 nv0 ctf 3a5i nyu 3a8q 3a9x",
    "o0f o2z cvj o5c o5m o5r 3at8 2=3b1j oa6 d1e 3b8r og6 og9 d2f 3beo onm d5s oo8 oo3 oow 3c06",
    "orn d8h ouf ow2 oxx d9w 3ciw 3cjr dax 3cnt p6i 3cqm p79 pa2 pad 3d22 3d43 pcw 3d7s pdc 33a7",
    "ded pf6 phf dfv pj2 hx1 3dlz 3dmd 33bn 33bw poh pok sda dij psh psb pst gc3 ptd ptf ptp puu",
    "3ebg put pwd pyb q0d pwj q0t q1z q53 pxv q16 q18 q1o 3eie 3eqz 3emt dnv q9d q9f qae 3g0a qck",
    "3f3g dp9 dpd 3f75 3ff6 dpn qj4 qjg qjr qjt qll qko qoe qn6 qrd qp4 qqz qrq dsn qu9 qv5 dtl",
    "qxs qxv 3giv r13 r1a dv9 r22 aez 3gz2 3h46 dz2 dzb rds rfx rka rpx 3hrc rsb rsx rvf rxz 3i9b",
    "2upw s0b rzw s1c 2uvy s7o sag 3jki 3jl9 sk4 smp snl 3ju6 snv svs 2>t07 sxo t89 t91 3ksa tjf",
    "ej9 tkn 3l2v eli ts3 iia tur 3ltx 3lzu epa epi u00 3mdm er6 3mhi 2=u17 u21 3mpi u76 eur u95",
    "ucn ude uf2 ez2 3nsg umq uv4 v0d f66 f71 v3b 3owe f7c 3oxx 3p5a 3p8x vcr f9y veh vem vet vf3",
    "vfa vgb 3pxc +fhlu 6o="]

def apply (run : FormRun) (c : Char) : List Char :=
  match run.rule with
  | .shift first => [Char.ofNat (first + (c.toNat - run.start))]
  | .alternate => if (c.toNat - run.start) % 2 = 0 then [Char.ofNat (c.toNat + 1)] else [c]
  | .text chars => chars

end FormRun

def nameForm (c : Char) : List Char :=
  match Text.entryAt? FormRun.start FormRun.table c.toNat with
  | some run => if c.toNat < run.start + run.length then run.apply c else [c]
  | none => [c]

end Gateway.Url
