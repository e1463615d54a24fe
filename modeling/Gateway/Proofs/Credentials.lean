import Gateway.Proofs.Base64
import Gateway.Proofs.Headers
import Gateway.Proofs.WireForms

/-!
Basic credentials. The form codes of id and secret hold no colon, so the colon between them is the
only one, and who reads the header back gets both as they were configured, whatever they are made of.
-/

namespace Gateway

namespace Form

theorem encode_encodeComponent_count {separator : UInt8} (special : isWritten separator = false)
    (text : String) : (Utf8.encode (encodeComponent text)).count separator = 0 :=
  List.count_eq_zero.mpr (encodeComponent_free special)

end Form

namespace Credentials

/-- A header value shows an id and a secret: behind the scheme stands the Base64 form of a text with
one colon, and the texts whose form codes stand before and behind the colon are the two. -/
inductive Shows (value : HeaderValue) (clientId clientSecret : String) : Prop where
  | intro (letters : String) (pair : Bytes)
      (schemed : value.bytes = Utf8.encode ("Basic " ++ letters))
      (spelled : Base64.Spells letters.toList pair)
      (readable : Base64.decode? letters = some pair)
      (parted : pair.count 58 = 1)
      (identified : Form.decodeComponent (Form.splitFirst 58 pair).1 = clientId)
      (vouched : Form.decodeComponent (Form.splitFirst 58 pair).2 = clientSecret)

variable {value : HeaderValue} {clientId clientSecret otherId otherSecret : String}

theorem Shows.unique (shows : Shows value clientId clientSecret)
    (others : Shows value otherId otherSecret) :
    otherId = clientId ∧ otherSecret = clientSecret := by
  obtain ⟨letters, pair, schemed, -, readable, -, identified, vouched⟩ := shows
  obtain ⟨otherLetters, otherPair, otherSchemed, -, otherReadable, -, otherIdentified,
    otherVouched⟩ := others
  have texts : "Basic " ++ letters = "Basic " ++ otherLetters :=
    Utf8.encode_injective (schemed.symm.trans otherSchemed)
  obtain rfl : letters = otherLetters := String.append_right_inj _ |>.mp texts
  obtain rfl : pair = otherPair := Option.some.inj (readable.symm.trans otherReadable)
  exact ⟨otherIdentified.symm.trans identified, otherVouched.symm.trans vouched⟩

variable (credentials : Credentials)

theorem encode_basicPair : Utf8.encode credentials.basicPair =
    Utf8.encode (Form.encodeComponent credentials.clientId) ++
      58 :: Utf8.encode (Form.encodeComponent credentials.clientSecret) := by
  have colon : Utf8.encode ":" = [58] := by decide
  rw [basicPair, Utf8.encode_append, Utf8.encode_append, colon, List.append_assoc,
    List.singleton_append]

theorem basicText_shows (bytes : value.bytes = Utf8.encode credentials.basicText) :
    Shows value credentials.clientId credentials.clientSecret := by
  have apart : Form.isWritten 58 = false := by decide
  have free : 58 ∉ Utf8.encode (Form.encodeComponent credentials.clientId) :=
    Form.encodeComponent_free apart
  have split := Form.splitFirst_append free
    (Utf8.encode (Form.encodeComponent credentials.clientSecret))
  rw [← encode_basicPair] at split
  refine ⟨Base64.encode (Utf8.encode credentials.basicPair), Utf8.encode credentials.basicPair, bytes,
    ?_, Base64.decode?_encode _, ?_, ?_, ?_⟩
  · rw [Base64.encode, String.toList_ofList]
    exact Base64.encodeChars_spells _
  · rw [encode_basicPair, List.count_append, List.count_cons_self,
      Form.encode_encodeComponent_count apart, Form.encode_encodeComponent_count apart]
  · rw [split, Form.decodeComponent_encodeComponent]
  · rw [split, Form.decodeComponent_encodeComponent]

/-- Whatever id and secret a client has, they can be sent in a Basic header: the form stays as it is,
the header replaces any that was there, no other header changes, and the id and the secret are all
that can be read from it. -/
theorem basic_credentials_survive (clientId clientSecret : String) (hasId : clientId ≠ "")
    (hasSecret : clientSecret ≠ "") :
    ∃ credentials value,
      create .clientSecretBasic clientId clientSecret = .ok credentials ∧
      Shows value clientId clientSecret ∧
      (∀ otherId otherSecret, Shows value otherId otherSecret →
        otherId = clientId ∧ otherSecret = clientSecret) ∧
      ∀ form headers, ∃ after, credentials.authenticate form headers = .ok (form, after) ∧
        after.getAll HeaderName.authorization = [value] ∧
        ∀ other, other ≠ HeaderName.authorization → after.getAll other = headers.getAll other := by
  let credentials : Credentials :=
    ⟨.clientSecretBasic, clientId, clientSecret, hasId, fun _ => hasSecret⟩
  have created : create .clientSecretBasic clientId clientSecret = .ok credentials := by
    rw [create, dif_pos hasId, dif_pos fun _ => hasSecret]
  obtain ⟨value, parsed⟩ := HeaderValue.exists_of_fits credentials.basicText_fits
  have shows : Shows value clientId clientSecret :=
    credentials.basicText_shows (HeaderValue.parse_eq_some_iff.mp parsed).2
  refine ⟨credentials, value, created, shows, fun _ _ others => shows.unique others, ?_⟩
  intro form headers
  refine ⟨headers.insert HeaderName.authorization value, ?_, ?_, ?_⟩
  · unfold authenticate
    simp only [credentials] at parsed ⊢
    rw [parsed]
  · rw [HeaderMap.getAll_insert, if_pos rfl]
  · intro other apart
    rw [HeaderMap.getAll_insert, if_neg (Ne.symm apart)]

/-- Colons, blanks, signs of the form code itself and characters beyond ASCII survive as well. -/
theorem basic_credentials_survive_hostile :
    "a:b%3A+" ≠ "" ∧ "ü \n" ≠ "" ∧ ∃ credentials value,
      create .clientSecretBasic "a:b%3A+" "ü \n" = .ok credentials ∧
        (credentials.authenticate [("token", "t")]
          (HeaderMap.empty.append HeaderName.authorization HeaderValue.empty)).map
            (fun sent => (sent.1, sent.2.getAll HeaderName.authorization)) =
          .ok ([("token", "t")], [value]) ∧
        Shows value "a:b%3A+" "ü \n" := by
  have hasId : "a:b%3A+" ≠ "" := by decide
  have hasSecret : "ü \n" ≠ "" := by decide
  obtain ⟨credentials, value, created, shows, -, sends⟩ :=
    basic_credentials_survive "a:b%3A+" "ü \n" hasId hasSecret
  obtain ⟨after, sent, single, -⟩ := sends [("token", "t")]
    (HeaderMap.empty.append HeaderName.authorization HeaderValue.empty)
  refine ⟨hasId, hasSecret, credentials, value, created, ?_, shows⟩
  rw [sent]
  exact congrArg (fun values => Except.ok ([("token", "t")], values)) single

example : (⟨.clientSecretBasic, "a:b%3A+", "ü \n", by decide, by decide⟩ : Credentials).basicText =
    "Basic YSUzQWIlMjUzQSUyQjolQzMlQkMrJTBB" := by
  decide +kernel

end Credentials

end Gateway
