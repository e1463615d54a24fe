import Gateway.Proofs.Introspection.Answers

/-!
For how long an answer is kept. The end of a token is what the caller knows of it, or else what the
server says; no answer outlives its token, and one that is over already is not stored. What is left
of a token is a signed integer of 64 bits wherever it is computed. Ends before the epoch are the
exception: the caller's word is taken for them, and then nobody looks at it.
-/

namespace Gateway

namespace Json

def IsInt64 (value : Int) : Prop := minInt64 ≤ value ∧ value ≤ maxInt64

instance (value : Int) : Decidable (IsInt64 value) := inferInstanceAs (Decidable (_ ∧ _))

theorem isInt64_iff {value : Int} :
    IsInt64 value ↔ -9223372036854775808 ≤ value ∧ value ≤ 9223372036854775807 :=
  Iff.rfl

theorem isInt64_clampInt64 (value : Int) : IsInt64 (clampInt64 value) := by
  have ordered : minInt64 ≤ maxInt64 := by decide
  unfold IsInt64 clampInt64
  omega

/-- However a server writes a number, it is read into the range. -/
theorem isInt64_toInt64? {value : Json} {read : Int} (found : value.toInt64? = some read) :
    IsInt64 read := by
  cases value with
  | num number =>
      cases number with
      | int sent =>
          rw [← Option.some.inj found]
          exact isInt64_clampInt64 sent
      | float sent =>
          simp only [toInt64?, Number.toInt64?] at found
          split at found
          · rw [← Option.some.inj found]
            exact isInt64_clampInt64 _
          · cases found
  | _ => cases found

end Json

open Json (IsInt64)

/-- The end of a token as far as anyone knows it: the caller, or else the server if it names a time
after the epoch. -/
def knownExpiry (claims : Claims) (expiry : Int) : Option Int :=
  if expiry ≠ 0 then some expiry else claims.expiry.filter (0 < ·)

/-- A token that is not active and will not become active any more. -/
def Claims.IsSpent (claims : Claims) (notBefore now : Int) : Prop :=
  claims.active = false ∧ (notBefore ≤ 0 ∨ notBefore < now)

instance (claims : Claims) (notBefore now : Int) : Decidable (claims.IsSpent notBefore now) :=
  inferInstanceAs (Decidable (_ ∧ _))

/-- How long an answer may be kept: as configured as long as nobody knows the end of its token, and
up to that end otherwise, for a spent token all the time until then. -/
def lifetime (configured : Int) (claims : Claims) (expiry notBefore now : Int) : Int :=
  match knownExpiry claims expiry with
  | none => configured
  | some ends =>
      if claims.IsSpent notBefore now then ends - now else min configured (ends - now)

variable {configured expiry notBefore now ends : Int} {claims : Claims}

theorem effectiveExpiry_eq (claims : Claims) (expiry : Int) :
    effectiveExpiry claims expiry = (knownExpiry claims expiry).getD 0 := by
  unfold effectiveExpiry knownExpiry
  split
  · rfl
  · cases claims.expiry with
    | none => rfl
    | some sent => by_cases later : 0 < sent <;> simp [Option.filter, later]

/-- Only a caller can name an end that is not after the epoch. -/
theorem knownExpiry_pos (known : knownExpiry claims expiry = some ends) (named : 0 ≤ expiry) :
    0 < ends := by
  unfold knownExpiry at known
  split at known
  · rename_i given
    rw [← Option.some.inj known]
    omega
  · simpa using (Option.filter_eq_some_iff.mp known).2

theorem knownExpiry_isInt64 (known : knownExpiry claims expiry = some ends)
    (given : IsInt64 expiry) : IsInt64 ends := by
  unfold knownExpiry at known
  split at known
  · rwa [← Option.some.inj known]
  · obtain ⟨sent, _, read⟩ := Option.bind_eq_some_iff.mp (Option.filter_eq_some_iff.mp known).1
    exact Json.isInt64_toInt64? read

theorem remaining_isInt64 (after : 0 < ends) (fits : IsInt64 ends) (since : 0 ≤ now)
    (clock : IsInt64 now) : IsInt64 (ends - now) := by
  rw [Json.isInt64_iff] at fits clock ⊢
  omega

theorem cacheTtl_of_negative (negative : expiry < 0) :
    cacheTtl configured claims expiry notBefore now = configured := by
  have own : effectiveExpiry claims expiry = expiry := by
    unfold effectiveExpiry
    exact if_pos (by omega)
  unfold cacheTtl
  dsimp only
  rw [own]
  exact if_neg (by omega)

theorem cacheTtl_eq_lifetime (named : 0 ≤ expiry) :
    cacheTtl configured claims expiry notBefore now =
      lifetime configured claims expiry notBefore now := by
  unfold cacheTtl lifetime
  dsimp only
  rw [effectiveExpiry_eq]
  cases known : knownExpiry claims expiry with
  | none => rfl
  | some ends =>
      have spent : (!claims.active && (notBefore ≤ 0 || notBefore < now)) = true ↔
          claims.IsSpent notBefore now := by
        simp [Claims.IsSpent]
      simp only [Option.getD_some, knownExpiry_pos known named, if_true, spent]

theorem lifetime_le (known : knownExpiry claims expiry = some ends) :
    lifetime configured claims expiry notBefore now ≤ ends - now := by
  unfold lifetime
  rw [known]
  dsimp only
  split
  · exact Int.le_refl _
  · exact Int.min_le_right _ _

theorem lifetime_isInt64 (asked : IsInt64 configured)
    (left : ∀ ends, knownExpiry claims expiry = some ends → IsInt64 (ends - now)) :
    IsInt64 (lifetime configured claims expiry notBefore now) := by
  unfold lifetime
  cases known : knownExpiry claims expiry with
  | none => exact asked
  | some ends =>
      have remaining := left ends known
      dsimp only
      split
      · exact remaining
      · rcases Int.le_total configured (ends - now) with short | long
        · rwa [Int.min_eq_left short]
        · rwa [Int.min_eq_right long]

theorem Store.set_of_nonpositive {ttl : Int} (spent : ttl ≤ 0) (store : Store) (time : Nat)
    (key : String) (value : Bytes) : store.set time key value ttl = store :=
  if_pos spent

/-- An answer is kept for its lifetime, which is computed without leaving the range of 64 bits and
is at most what is left of the token: if the token is over, nothing is stored. The one exception is
an end before the epoch that the caller names, for which the answer is kept as configured although
its lifetime is over. -/
theorem kept_for_its_lifetime (configured : Int) (claims : Claims) (expiry notBefore now : Int)
    (keeps : 0 < configured) (asked : IsInt64 configured) (given : IsInt64 expiry)
    (since : 0 ≤ now) (clock : IsInt64 now) :
    let ttl := cacheTtl configured claims expiry notBefore now
    (0 ≤ expiry →
      ttl = lifetime configured claims expiry notBefore now ∧
      ∀ ends, knownExpiry claims expiry = some ends →
        IsInt64 (ends - now) ∧ ttl ≤ ends - now ∧
        (ends ≤ now → ∀ (store : Store) time key value, store.set time key value ttl = store)) ∧
    (expiry < 0 →
      ttl = configured ∧ 0 < ttl ∧ lifetime configured claims expiry notBefore now < 0) ∧
    IsInt64 ttl := by
  intro ttl
  have inRange (named : 0 ≤ expiry) (ends : Int) (known : knownExpiry claims expiry = some ends) :
      IsInt64 (ends - now) :=
    remaining_isInt64 (knownExpiry_pos known named) (knownExpiry_isInt64 known given) since clock
  refine ⟨?_, ?_, ?_⟩
  · intro named
    have kept : ttl = lifetime configured claims expiry notBefore now := cacheTtl_eq_lifetime named
    refine ⟨kept, ?_⟩
    intro ends known
    have bounded : ttl ≤ ends - now := kept ▸ lifetime_le known
    refine ⟨inRange named ends known, bounded, ?_⟩
    intro ended store time key value
    exact Store.set_of_nonpositive (by omega) store time key value
  · intro negative
    have known : knownExpiry claims expiry = some expiry := if_pos (by omega)
    have bounded : lifetime configured claims expiry notBefore now ≤ expiry - now :=
      lifetime_le known
    have kept : ttl = configured := cacheTtl_of_negative negative
    exact ⟨kept, kept ▸ keeps, by omega⟩
  · by_cases named : 0 ≤ expiry
    · have kept : ttl = lifetime configured claims expiry notBefore now :=
        cacheTtl_eq_lifetime named
      rw [kept]
      exact lifetime_isInt64 asked (inRange named)
    · have kept : ttl = configured := cacheTtl_of_negative (by omega)
      rwa [kept]

def activeClaims : Claims := ⟨[("active", .bool true)]⟩

/-- An inactive token is remembered until its end, an active one that is over is not remembered. -/
theorem kept_for_its_lifetime_until_the_end :
    cacheTtl 10 ⟨[]⟩ 2000 (-1) 1000 = 1000 ∧
      ∀ store : Store, store.set 0 "ir:t" [] (cacheTtl 60 activeClaims 999 0 1000) = store := by
  have spent := kept_for_its_lifetime 10 ⟨[]⟩ 2000 (-1) 1000 (by decide) (by decide) (by decide)
    (by decide) (by decide)
  have ended := kept_for_its_lifetime 60 activeClaims 999 0 1000 (by decide) (by decide) (by decide)
    (by decide) (by decide)
  constructor
  · exact (spent.1 (by decide)).1
  · intro store
    exact ((ended.1 (by decide)).2 999 rfl).2.2 (by decide) store 0 "ir:t" []

/-- The caller knows that the token ended before the epoch, and the answer is kept for a minute. -/
theorem kept_past_its_end :
    let ttl := cacheTtl 60 activeClaims (-3) 0 1790000000
    knownExpiry activeClaims (-3) = some (-3) ∧
      ttl ≠ lifetime 60 activeClaims (-3) 0 1790000000 ∧ ¬ttl ≤ -3 - 1790000000 ∧
      (Store.empty.set 0 "ir:t" [0x7b, 0x7d] ttl).live? 59999 "ir:t" = some [0x7b, 0x7d] := by
  decide

end Gateway
