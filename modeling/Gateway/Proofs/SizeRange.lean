import Gateway.Proofs.ByteSizes

/-!
The top of the range of sizes. Reading is monotone in the number, so a unit is known from where its
sizes start to need more than 64 bits and from where they start to be refused. Between the two they
are taken for the greatest size: the bound that they are compared with is itself one too large, and
doubles near it are thousands of bytes apart.
-/

namespace Gateway

namespace ByteSize

section Whole

variable {number other size bytes : Nat}

/-- More of a unit is never read as less, and what is not refused of more is not refused of less. -/
theorem ofWhole_mono (less : number ≤ other) (read : ofWhole other size = .ok bytes) :
    ∃ fewer ≤ bytes, ofWhole number size = .ok fewer := by
  obtain ⟨upper, unit, product, found, unitFound, multiplied, within, rfl⟩ :=
    ofWhole_eq_ok_iff.mp read
  obtain ⟨lower, lowerFound, lowerLess⟩ := Binary64.Rounds.mono (by exact_mod_cast less)
    (Binary64.rounds_ofNat? number) (found ▸ Binary64.rounds_ofNat? other)
  obtain ⟨part, partMultiplied, partLess⟩ := Binary64.Rounds.mono
    (mul_le_mul_of_nonneg_right lowerLess unit.magnitude_nonneg)
    (Binary64.rounds_mul? lower unit) (multiplied ▸ Binary64.rounds_mul? upper unit)
  have floors : part.floor ≤ product.floor := by
    rw [Binary64.floor_eq, Binary64.floor_eq]
    exact Nat.floor_le_floor partLess
  refine ⟨min part.floor greatest, min_le_min_right _ floors, ?_⟩
  rw [ofWhole_eq_ok_iff]
  exact ⟨lower, unit, part, lowerFound, unitFound, partMultiplied, floors.trans within, rfl⟩

theorem ofWhole_error {fault : Fault} (read : ofWhole number size = .error fault) :
    fault = .outOfRange := by
  unfold ofWhole ofProduct at read
  split at read
  · exact (Except.error.inj read).symm
  · split at read
    · exact (Except.error.inj read).symm
    · split at read
      · exact (Except.error.inj read).symm
      · cases read

theorem ofWhole_refused_of_le (less : other ≤ number)
    (refused : ofWhole other size = .error .outOfRange) :
    ofWhole number size = .error .outOfRange := by
  cases read : ofWhole number size with
  | error fault => rw [ofWhole_error read]
  | ok bytes =>
      obtain ⟨fewer, _, accepted⟩ := ofWhole_mono less read
      exact nomatch refused.symm.trans accepted

theorem ofWhole_greatest_of_between {first last : Nat} (above : first ≤ number)
    (below : number ≤ last) (low : ofWhole first size = .ok greatest)
    (high : ofWhole last size = .ok greatest) : ofWhole number size = .ok greatest := by
  obtain ⟨bytes, upper, read⟩ := ofWhole_mono below high
  obtain ⟨fewer, lower, reached⟩ := ofWhole_mono above read
  obtain rfl : greatest = fewer := Except.ok.inj (low.symm.trans reached)
  rw [read, le_antisymm upper lower]

end Whole

/-- Where the sizes of a unit leave the range. -/
structure Edge where
  size : Nat
  /-- How many of the unit are the first to need more than 64 bits. -/
  first : Nat
  /-- How many are the first to be refused. -/
  refused : Nat

def edges : List Edge :=
  [⟨1, 2 ^ 64, 2 ^ 64 + 2049⟩,
    ⟨1000, 18446744073709552, 18446744073709555⟩,
    ⟨1000 ^ 2, 18446744073710, 18446744073710⟩,
    ⟨1000 ^ 3, 18446744074, 18446744074⟩,
    ⟨1000 ^ 4, 18446745, 18446745⟩,
    ⟨1024, 2 ^ 54, 2 ^ 54 + 3⟩,
    ⟨1024 ^ 2, 2 ^ 44, 2 ^ 44 + 1⟩,
    ⟨1024 ^ 3, 2 ^ 34, 2 ^ 34 + 1⟩,
    ⟨1024 ^ 4, 2 ^ 24, 2 ^ 24 + 1⟩]

theorem ofWhole_edges : ∀ edge ∈ edges,
    ofWhole edge.refused edge.size = .error .outOfRange ∧
      (edge.first < edge.refused → ofWhole edge.first edge.size = .ok greatest ∧
        ofWhole (edge.refused - 1) edge.size = .ok greatest) := by
  decide +kernel

/-- A size that is told apart from `2 ^ 64` bytes: beyond the middle between this and the next double.
There is one number of kilobytes beyond it that is itself rounded down before it is multiplied. -/
def Distinct (number size : Nat) : Prop :=
  2 ^ 64 + 2048 < number * size ∧ ¬(number = 18446744073709554 ∧ size = 1000)

theorem edge_counts {edge : Edge} (listed : edge ∈ edges) (number : Nat) :
    (greatest < number * edge.size ↔ edge.first ≤ number) ∧
      (Distinct number edge.size ↔ edge.refused ≤ number) := by
  have top : greatest = 18446744073709551615 := rfl
  simp only [edges, List.mem_cons, List.not_mem_nil, or_false] at listed
  rcases listed with rfl | rfl | rfl | rfl | rfl | rfl | rfl | rfl | rfl <;>
    simp only [Distinct, top, and_true] <;> omega

theorem edges_complete : ∀ entry ∈ units, ∃ edge ∈ edges, edge.size = entry.2 := by
  decide

theorem ofWhole_beyond {unit : String} {number size : Nat} (denotes : Denotes unit size)
    (beyond : greatest < number * size) :
    (Distinct number size → ofWhole number size = .error .outOfRange) ∧
      (¬Distinct number size → ofWhole number size = .ok greatest) := by
  obtain ⟨stem, listedUnit, -⟩ := denotes
  obtain ⟨edge, listed, rfl⟩ := edges_complete _ listedUnit
  obtain ⟨outside, inside⟩ := ofWhole_edges edge listed
  obtain ⟨needs, distinct⟩ := edge_counts listed number
  have reached : edge.first ≤ number := needs.mp beyond
  rw [distinct]
  constructor
  · intro above
    exact ofWhole_refused_of_le above outside
  · intro below
    obtain ⟨low, high⟩ := inside (by omega)
    exact ofWhole_greatest_of_between reached (by omega) low high

/-- A route that configures no limit has that of an endpoint that is made without any. -/
theorem parse_of_blank {limit : Option String}
    (blank : ∀ text, limit = some text → Text.isBlankText text = true) :
    BodyLimit.parse limit = .ok BodyLimit.standard := by
  have read : configuredSize BodyLimit.standardText = .ok BodyLimit.standard := rfl
  cases limit with
  | none => exact read
  | some text => rw [BodyLimit.parse, if_pos (blank text rfl), read]

theorem parse_spelling (spelling : Spelling) :
    BodyLimit.parse (some spelling.text) = configuredSize spelling.text := by
  have written : ¬Text.isBlankText spelling.text = true := by
    intro blank
    obtain ⟨digit, member⟩ := List.exists_mem_of_ne_nil _ spelling.nonempty
    have within : digit ∈ spelling.text.toList := by
      rw [Spelling.text, String.toList_ofList]
      simp [member]
    have solid : Text.isBlank digit = true := List.all_eq_true.mp blank digit within
    rw [Text.isBlank_of_isTokenChar (isTokenChar_of_isDigit (spelling.numeric digit member))] at solid
    cases solid
  rw [BodyLimit.parse, if_neg written]

/-- What is read, as a size and as the limit of a body, where 64 bits do not hold the bytes. Distinct
sizes are refused; the others become the greatest size. -/
theorem refuses_distinct_sizes (spelling : Spelling)
    (beyond : greatest < spelling.number * spelling.size) :
    let text := spelling.text
    let refusal := ConfigError.invalidSize text "out of range"
    (Distinct spelling.number spelling.size →
      configuredSize text = .error refusal ∧ BodyLimit.parse (some text) = .error refusal) ∧
    (¬Distinct spelling.number spelling.size →
      configuredSize text = .ok greatest ∧ BodyLimit.parse (some text) = .ok greatest) := by
  intro text refusal
  obtain ⟨refused, taken⟩ := ofWhole_beyond spelling.denotes beyond
  rw [parse_spelling]
  constructor
  · intro distinct
    have read : configuredSize text = .error refusal :=
      configuredSize_of_fault ((read_spelling spelling).trans (refused distinct))
    exact ⟨read, read⟩
  · intro same
    have read : configuredSize text = .ok greatest :=
      configuredSize_of_read ((read_spelling spelling).trans (taken same))
    exact ⟨read, read⟩

def refusedBytes : Spelling where
  digits := "18446744073709553665".toList
  unit := ""
  size := 1
  denotes := ⟨"", by decide, .inl rfl⟩

def roundedKilobytes : Spelling where
  digits := "18446744073709554".toList
  between := [' ']
  unit := "kB"
  size := 1000
  denotes := ⟨"k", by decide, .inr (by decide)⟩

theorem refuses_distinct_sizes_at_the_edge :
    (greatest < refusedBytes.number * refusedBytes.size ∧
      greatest < roundedKilobytes.number * roundedKilobytes.size) ∧
    configuredSize refusedBytes.text = .error (.invalidSize refusedBytes.text "out of range") ∧
    BodyLimit.parse (some roundedKilobytes.text) = .ok greatest := by
  have bytesBeyond : greatest < refusedBytes.number * refusedBytes.size := by decide +kernel
  have kilobytesBeyond : greatest < roundedKilobytes.number * roundedKilobytes.size := by
    decide +kernel
  have distinct : Distinct refusedBytes.number refusedBytes.size := by
    unfold Distinct
    decide +kernel
  have same : ¬Distinct roundedKilobytes.number roundedKilobytes.size := by
    unfold Distinct
    decide +kernel
  exact ⟨⟨bytesBeyond, kilobytesBeyond⟩,
    ((refuses_distinct_sizes refusedBytes bytesBeyond).1 distinct).1,
    ((refuses_distinct_sizes roundedKilobytes kilobytesBeyond).2 same).2⟩

def tebibytes : Spelling where
  digits := "16777216".toList
  unit := "TiB"
  size := 1024 ^ 4
  denotes := ⟨"ti", by decide, .inr (by decide)⟩

/-- A size that 64 bits do not hold is taken for the greatest one that they do hold. -/
theorem tebibytes_taken_for_greatest :
    tebibytes.text = "16777216TiB" ∧ tebibytes.number * tebibytes.size = greatest + 1 ∧
    configuredSize tebibytes.text = .ok greatest ∧
    BodyLimit.parse (some tebibytes.text) = .ok greatest := by
  have read : configuredSize tebibytes.text = .ok greatest := by decide +kernel
  exact ⟨by decide +kernel, by decide +kernel, read, (parse_spelling tebibytes).trans read⟩

end ByteSize

end Gateway
