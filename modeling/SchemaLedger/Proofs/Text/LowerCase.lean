import SchemaLedger.Text.Casing
import SchemaLedger.Text.CharacterSets

/-! # Lower case of letters and digits

In lower case a letter or digit is one letter or digit again, which lower case leaves as it is. The
capital I with a dot is the only exception: its dot becomes a mark that is no letter.
-/

namespace SchemaLedger.Text

set_option autoImplicit false

theorem lower_within_ascii (m : Fin 0x80) :
    let c := Char.ofNat m.val
    (isAlphanumeric c → lowerChar c = [c.toLower] ∧ isAlphanumeric c.toLower ∧
      lowerChar c.toLower = [c.toLower]) ∧
    (0x61 ≤ m.val → m.val ≤ 0x7A → isAlphanumeric c ∧ lowerChar c = [c]) := by
  decide +kernel +revert

/-- The tables of letters and digits, each with the code points from and below which it is read. -/
def letterBlocks : List (Nat × Nat × CodePoints) :=
  [(0x80, 0x3000, alphanumericBelowKana), (0x3000, 0x10000, alphanumericKanaOn),
   (0x10000, 0x12000, alphanumericEarlyScripts), (0x12000, 0x110000, alphanumericLaterPlanes)]

def letterRanges : CodePoints :=
  (0x61, 0x7A) :: letterBlocks.flatMap fun block => block.2.2

/-- No range leaves its block or meets the surrogates. -/
theorem bounds_of_mem_letterBlocks : ∀ block ∈ letterBlocks, ∀ range ∈ block.2.2,
    0x80 ≤ block.1 ∧ block.1 ≤ range.1 ∧ range.2 < block.2.1 ∧
      (range.2 < 0xD800 ∨ 0xDFFF < range.1 ∧ range.2 < 0x110000) := by
  decide +kernel

theorem isAlphanumeric_eq_has {block : Nat × Nat × CodePoints} (hblock : block ∈ letterBlocks)
    {c : Char} (hfrom : block.1 ≤ c.toNat) (hbelow : c.toNat < block.2.1) :
    isAlphanumeric c = block.2.2.has c := by
  simp only [letterBlocks, List.mem_cons, List.not_mem_nil, or_false] at hblock
  unfold isAlphanumeric
  obtain rfl | rfl | rfl | rfl := hblock <;> dsimp only at hfrom hbelow
  · rw [if_neg (by omega), if_pos (by omega)]
  · rw [if_neg (by omega), if_neg (by omega), if_pos (by omega)]
  · rw [if_neg (by omega), if_neg (by omega), if_neg (by omega), if_pos (by omega)]
  · rw [if_neg (by omega), if_neg (by omega), if_neg (by omega), if_neg (by omega)]

theorem toNat_ofNat {n : Nat} (h : n < 0xD800 ∨ 0xDFFF < n ∧ n < 0x110000) :
    (Char.ofNat n).toNat = n := by
  rw [Char.ofNat, dif_pos h]
  rfl

theorem isAlphanumeric_of_mem {range : Nat × Nat} (hrange : range ∈ letterRanges) {n : Nat}
    (hfirst : range.1 ≤ n) (hlast : n ≤ range.2) :
    (Char.ofNat n).toNat = n ∧ isAlphanumeric (Char.ofNat n) ∧ (n < 0x80 → 0x61 ≤ n ∧ n ≤ 0x7A) := by
  obtain rfl | hbeyond := List.mem_cons.1 hrange
  · obtain ⟨-, hsmall⟩ := lower_within_ascii ⟨n, by omega⟩
    exact ⟨toNat_ofNat (by omega), (hsmall hfirst hlast).1, fun _ => ⟨hfirst, hlast⟩⟩
  · obtain ⟨block, hblock, hmem⟩ := List.mem_flatMap.1 hbeyond
    obtain ⟨hascii, hfrom, hbelow, hcharacters⟩ := bounds_of_mem_letterBlocks block hblock range hmem
    have hvalid : (Char.ofNat n).toNat = n := toNat_ofNat (by omega)
    refine ⟨hvalid, ?_, by omega⟩
    rw [isAlphanumeric_eq_has hblock (by omega) (by omega), CodePoints.has_iff]
    exact ⟨range, hmem, hvalid.symm ▸ hfirst, hvalid.symm ▸ hlast⟩

namespace CaseRuns

abbrev Run := Nat × Nat × Nat × Int

def Meets (run : Run) (n : Nat) : Prop :=
  run.1 ≤ n ∧ n ≤ run.2.1 ∧ (n - run.1) % run.2.2.1 = 0

def lowest (run : Run) : Nat :=
  (run.1 + run.2.2.2).toNat

def highest (run : Run) : Nat :=
  (run.2.1 + run.2.2.2).toNat

/-- What the run assigns is below the other run, or above it, or stands between every second code
point that the other run meets. -/
def avoids (run other : Run) : Bool :=
  Nat.ble (highest run + 1) other.1 || Nat.ble (other.2.1 + 1) (lowest run) ||
    (other.2.2.1 == 2 && (run.2.2.1 == 2 || run.1 == run.2.1) && (lowest run + other.1) % 2 == 1)

def landsIn (ranges : CodePoints) (run : Run) : Bool :=
  ranges.any fun range => Nat.ble range.1 (lowest run) && Nat.ble (highest run) range.2

theorem not_meets_of_avoids {run other : Run} (h : avoids run other) {n : Nat} (hn : Meets run n)
    (hpositive : 0 < lowest run) : ¬ Meets other (n + run.2.2.2).toNat := by
  obtain ⟨first, last, step, shift⟩ := run
  obtain ⟨first', last', step', shift'⟩ := other
  simp only [avoids, lowest, highest, Meets, Bool.or_eq_true, Bool.and_eq_true, Nat.ble_eq,
    beq_iff_eq] at *
  obtain ⟨hfirst, hlast, hstep⟩ := hn
  rintro ⟨hfirst', hlast', hstep'⟩
  obtain (hbelow | habove) | ⟨⟨rfl, hrun⟩, hodd⟩ := h
  · omega
  · omega
  · obtain rfl | rfl := hrun <;> omega

theorem shifted?_eq_none {runs : CaseRuns} {c : Char} (h : ∀ run ∈ runs, ¬ Meets run c.toNat) :
    runs.shifted? c = none := by
  rw [shifted?, Option.map_eq_none_iff, List.find?_eq_none]
  intro run hrun
  have hmeets := h run hrun
  simpa [Meets] using hmeets

theorem exists_run_of_shifted? {runs : CaseRuns} {c d : Char} (h : runs.shifted? c = some d) :
    ∃ run ∈ runs, Meets run c.toNat ∧ d = Char.ofNat (c.toNat + run.2.2.2).toNat := by
  obtain ⟨run, hrun, rfl⟩ := Option.map_eq_some_iff.1 h
  have hmeets := List.find?_some hrun
  refine ⟨run, List.mem_of_find?_eq_some hrun, ?_, rfl⟩
  simpa [Meets, and_assoc] using hmeets

end CaseRuns

open CaseRuns

/-- No run meets what a run assigns, and the capital I with a dot is not assigned either. -/
theorem of_mem_lowerRuns {run : Run} (hrun : run ∈ lowerRuns) : landsIn letterRanges run ∧
    ∀ other ∈ (0x130, 0x130, 1, 0) :: lowerRuns, avoids run other := by
  have hall : lowerRuns.all fun run => landsIn letterRanges run &&
      ((0x130, 0x130, 1, 0) :: lowerRuns).all (avoids run) := by
    decide +kernel
  have hchecked := List.all_eq_true.1 hall run hrun
  rwa [Bool.and_eq_true, List.all_eq_true] at hchecked

theorem lower_of_shifted? {c d : Char} (h : lowerRuns.shifted? c = some d) :
    isAlphanumeric d ∧ lowerChar d = [d] := by
  obtain ⟨run, hrun, hmeets, rfl⟩ := exists_run_of_shifted? h
  obtain ⟨hletters, havoids⟩ := of_mem_lowerRuns hrun
  obtain ⟨range, hrange, hlands⟩ := List.any_eq_true.1 hletters
  simp only [Bool.and_eq_true, Nat.ble_eq] at hlands
  have hbounds : lowest run ≤ (c.toNat + run.2.2.2).toNat ∧
      (c.toNat + run.2.2.2).toNat ≤ highest run := by
    simp only [lowest, highest]
    have hfirst := hmeets.1
    have hlast := hmeets.2.1
    omega
  -- Above zero a shift downwards takes nothing off, so two code points keep their distance.
  have hpositive : 0 < lowest run := by
    obtain ⟨-, -, hsmall⟩ :=
      isAlphanumeric_of_mem hrange (n := lowest run) hlands.1 (by omega)
    omega
  obtain ⟨hvalid, halphanumeric, hsmall⟩ :=
    isAlphanumeric_of_mem hrange (n := (c.toNat + run.2.2.2).toNat) (by omega) (by omega)
  have havoided : ∀ other ∈ (0x130, 0x130, 1, 0) :: lowerRuns,
      ¬ Meets other (c.toNat + run.2.2.2).toNat := fun other hother =>
    not_meets_of_avoids (havoids other hother) hmeets hpositive
  refine ⟨halphanumeric, ?_⟩
  by_cases hascii : (c.toNat + run.2.2.2).toNat < 0x80
  · obtain ⟨-, hletter⟩ := lower_within_ascii ⟨_, hascii⟩
    exact (hletter (hsmall hascii).1 (hsmall hascii).2).2
  · obtain ⟨hdotted, hruns⟩ := List.forall_mem_cons.1 havoided
    have hne : (c.toNat + run.2.2.2).toNat ≠ 0x130 := fun heq =>
      hdotted ⟨Nat.le_of_eq heq.symm, Nat.le_of_eq heq, Nat.mod_one _⟩
    rw [lowerChar, hvalid, if_neg hascii, if_neg hne,
      shifted?_eq_none (hvalid.symm ▸ hruns), Option.getD_none]

/-- The mark that is left of the dot is no letter. -/
theorem lowerChar_dotted :
    isAlphanumeric 'İ' ∧ lowerChar 'İ' = ['i', '\u0307'] ∧ ¬ isAlphanumeric '\u0307' := by
  decide +kernel

/-- In lower case a letter or digit is one of the kind, and lower already. -/
theorem lowerChar_of_alphanumeric {c : Char} (h : isAlphanumeric c) (hdotted : c ≠ 'İ') :
    ∃ d, lowerChar c = [d] ∧ isAlphanumeric d ∧ lowerChar d = [d] := by
  by_cases hascii : c.toNat < 0x80
  · obtain ⟨hletter, -⟩ := lower_within_ascii ⟨c.toNat, hascii⟩
    rw [Char.ofNat_toNat] at hletter
    exact ⟨c.toLower, hletter h⟩
  · have hne : c.toNat ≠ 0x130 := fun heq => hdotted (Char.toNat_inj.1 heq)
    have hlower : lowerChar c = [(lowerRuns.shifted? c).getD c] := by
      rw [lowerChar, if_neg hascii, if_neg hne]
    cases hshifted : lowerRuns.shifted? c with
    | some d =>
      rw [hshifted] at hlower
      exact ⟨d, hlower, lower_of_shifted? hshifted⟩
    | none =>
      rw [hshifted] at hlower
      exact ⟨c, hlower, h, hlower⟩

end SchemaLedger.Text
