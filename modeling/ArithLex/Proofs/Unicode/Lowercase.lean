import ArithLex.Unicode.Lowercase

set_option autoImplicit false

/-! Lower case is final: it leaves no letter that has a small form. Where it comes out in ASCII
characters other than `k`, it has done no more than the lower case of ASCII letters. -/
namespace ArithLex.Unicode

namespace CaseRun

/-- The small forms of the run lie below the letters of `other`, above them, or between them. -/
def misses (run other : CaseRun) : Bool :=
  Nat.blt (run.image + (run.last - run.first)) other.first || Nat.blt other.last run.image ||
    (run.first == run.last || run.stride == 2) && other.stride == 2 &&
      (run.image + other.first) % 2 == 1

/-! What the table is checked for, run by run. -/

/-- Small forms are characters. -/
theorem image_valid : ∀ run ∈ caseRuns,
    run.image + (run.last - run.first) < 0xD800 ∨
      0xDFFF < run.image ∧ run.image + (run.last - run.first) < 0x110000 := by
  decide +kernel

/-- No small form has a small form. -/
theorem image_misses : caseRuns.all (fun run => caseRuns.all run.misses) = true := by
  decide +kernel

theorem image_ne_dotted : ∀ run ∈ caseRuns,
    run.image + (run.last - run.first) < 'İ'.toNat ∨ 'İ'.toNat < run.image := by
  decide +kernel

/-- Of the letters outside ASCII, one alone has its small form in ASCII. -/
theorem image_ascii : ∀ run ∈ caseRuns,
    run.last < 128 ∨ (run.first = run.last ∧ run.image = 'k'.toNat) ∨ 128 ≤ run.image := by
  decide +kernel

section Listed

variable {run : CaseRun} {c small : Char}

/-- A letter and its small form lie equally far behind the first ones of their run. -/
theorem toNat_of_lower? (listed : run ∈ caseRuns) (found : run.lower? c = some small) :
    ∃ distance, distance % run.stride = 0 ∧ run.first + distance ≤ run.last ∧
      c.toNat = run.first + distance ∧ small.toNat = run.image + distance := by
  simp only [lower?, Option.ite_none_right_eq_some, Option.some.injEq] at found
  obtain ⟨⟨lower, upper, strides⟩, rfl⟩ := found
  have valid : (run.image + (c.toNat - run.first)).isValidChar := by
    have within := image_valid run listed
    unfold Nat.isValidChar
    omega
  refine ⟨c.toNat - run.first, strides, by omega, by omega, ?_⟩
  rw [Char.ofNat, dif_pos valid]
  rfl

theorem lower?_small {other : CaseRun} (listed : run ∈ caseRuns) (listedToo : other ∈ caseRuns)
    (found : run.lower? c = some small) : other.lower? small = none := by
  rw [Option.eq_none_iff_forall_ne_some]
  intro smaller foundToo
  obtain ⟨distance, strides, within, -, code⟩ := toNat_of_lower? listed found
  obtain ⟨distanceToo, stridesToo, withinToo, codeToo, -⟩ := toNat_of_lower? listedToo foundToo
  have apart := List.all_eq_true.mp (List.all_eq_true.mp image_misses run listed) other listedToo
  simp only [misses, Bool.or_eq_true, Bool.and_eq_true, Nat.blt_eq, beq_iff_eq] at apart
  rcases apart with (below | above) | ⟨⟨single | two, twoToo⟩, odd⟩
  · omega
  · omega
  · rw [twoToo] at stridesToo
    omega
  · rw [two] at strides
    rw [twoToo] at stridesToo
    omega

theorem small_ne_dotted (listed : run ∈ caseRuns) (found : run.lower? c = some small) :
    small ≠ 'İ' := by
  rintro rfl
  obtain ⟨distance, -, within, -, code⟩ := toNat_of_lower? listed found
  have apart := image_ne_dotted run listed
  omega

theorem ascii_of_lower? (listed : run ∈ caseRuns) (found : run.lower? c = some small)
    (ascii : small.toNat < 128) (notK : small ≠ 'k') : c.toNat < 128 := by
  obtain ⟨distance, -, within, letter, code⟩ := toNat_of_lower? listed found
  rcases image_ascii run listed with low | ⟨single, image⟩ | high
  · omega
  · have same : small.toNat = 'k'.toNat := by omega
    exact absurd (Char.ext (UInt32.toNat_inj.mp same)) notK
  · omega

end Listed

end CaseRun

/-- Lower case leaves the character as it is, wherever it stands. -/
structure IsSmall (c : Char) : Prop where
  notSigma : c ≠ 'Σ'
  fixed : lowerChar c = [c]

/-- A letter is in a run, it is the one with a small form of two characters, or it has none. -/
theorem lowerChar_cases (c : Char) :
    (∃ run ∈ caseRuns, ∃ small, run.lower? c = some small ∧ lowerChar c = [small]) ∨
      c = 'İ' ∨ c ≠ 'İ' ∧ (∀ run ∈ caseRuns, run.lower? c = none) := by
  by_cases dotted : c = 'İ'
  · exact Or.inr (Or.inl dotted)
  · cases found : caseRuns.findSome? (·.lower? c) with
    | none => exact Or.inr (Or.inr ⟨dotted, List.findSome?_eq_none_iff.mp found⟩)
    | some small =>
        obtain ⟨run, listed, lower⟩ := List.exists_of_findSome?_eq_some found
        refine Or.inl ⟨run, listed, small, lower, ?_⟩
        rw [lowerChar, if_neg dotted, found, Option.getD_some]

theorem lowerChar_dotted : lowerChar 'İ' = ['i', Char.ofNat 0x307] := by
  rw [lowerChar, if_pos rfl]

theorem isSmall_of_absent {c : Char} (notDotted : c ≠ 'İ')
    (absent : ∀ run ∈ caseRuns, run.lower? c = none) : IsSmall c := by
  constructor
  · rintro rfl
    have inRun : ∃ run ∈ caseRuns, run.lower? 'Σ' ≠ none := by decide +kernel
    obtain ⟨run, listed, lower⟩ := inRun
    exact lower (absent run listed)
  · rw [lowerChar, if_neg notDotted, List.findSome?_eq_none_iff.mpr absent, Option.getD_none]

theorem isSmall_of_mem_lowerChar {c d : Char} (member : d ∈ lowerChar c) : IsSmall d := by
  rcases lowerChar_cases c with ⟨run, listed, small, found, lower⟩ | rfl | ⟨notDotted, absent⟩
  · rw [lower, List.mem_singleton] at member
    subst member
    apply isSmall_of_absent (CaseRun.small_ne_dotted listed found)
    intro other listedToo
    exact CaseRun.lower?_small listed listedToo found
  · rw [lowerChar_dotted, List.mem_cons, List.mem_singleton] at member
    rcases member with rfl | rfl
    · exact ⟨by decide, by decide +kernel⟩
    · exact ⟨by decide, by decide +kernel⟩
  · have small := isSmall_of_absent notDotted absent
    rw [small.fixed, List.mem_singleton] at member
    rwa [member]

theorem lowerSigma_cases (before after : List Char) :
    lowerSigma before after = 'ς' ∨ lowerSigma before after = 'σ' := by
  unfold lowerSigma
  split
  · exact Or.inl rfl
  · exact Or.inr rfl

theorem isSmall_lowerSigma (before after : List Char) : IsSmall (lowerSigma before after) := by
  rcases lowerSigma_cases before after with final | inner
  · rw [final]
    exact ⟨by decide, by decide +kernel⟩
  · rw [inner]
    exact ⟨by decide, by decide +kernel⟩

theorem isSmall_of_mem_lowerFrom {before chars : List Char} {d : Char}
    (member : d ∈ lowerFrom before chars) : IsSmall d := by
  induction chars generalizing before with
  | nil => cases member
  | cons c after ih =>
      rw [lowerFrom, List.mem_append] at member
      rcases member with here | later
      · split at here
        · rw [List.mem_singleton.mp here]
          exact isSmall_lowerSigma before after
        · exact isSmall_of_mem_lowerChar here
      · exact ih later

theorem lowerFrom_of_small {chars : List Char} (small : ∀ c ∈ chars, IsSmall c)
    (before : List Char) : lowerFrom before chars = chars := by
  induction chars generalizing before with
  | nil => rfl
  | cons c after ih =>
      rw [List.forall_mem_cons] at small
      rw [lowerFrom, if_neg small.1.notSigma, small.1.fixed, ih small.2, List.singleton_append]

/-- A text in lower case stays as it is. -/
theorem lowercase_lowercase (text : String) : lowercase (lowercase text) = lowercase text := by
  have small : ∀ c ∈ (lowercase text).toList, IsSmall c := by
    rw [lowercase, String.toList_ofList]
    intro c member
    exact isSmall_of_mem_lowerFrom member
  rw [lowercase, lowerFrom_of_small small, String.ofList_toList]

example : lowercase "ΟΔΟΣ ΣΑ \u212A İ" = "οδος σα k i\u0307" := by decide +kernel

section Ascii

theorem caseRuns_eq : caseRuns = ⟨'A'.toNat, 'Z'.toNat, 1, 'a'.toNat⟩ :: caseRuns.tail := rfl

theorem first_of_mem_tail : ∀ run ∈ caseRuns.tail, 128 ≤ run.first := by
  decide +kernel

/-- The first run does for ASCII letters what their own lower case does. -/
theorem lower?_ascii {c : Char} (ascii : c.toNat < 128) :
    (CaseRun.lower? ⟨'A'.toNat, 'Z'.toNat, 1, 'a'.toNat⟩ c).getD c = c.toLower := by
  have all : ∀ code < 128,
      (CaseRun.lower? ⟨'A'.toNat, 'Z'.toNat, 1, 'a'.toNat⟩ (Char.ofNat code)).getD
        (Char.ofNat code) = (Char.ofNat code).toLower := by
    decide +kernel
  simpa only [Char.ofNat_toNat] using all c.toNat ascii

theorem lowerChar_of_ascii {c : Char} (ascii : c.toNat < 128) : lowerChar c = [c.toLower] := by
  have notDotted : c ≠ 'İ' := by
    rintro rfl
    exact absurd ascii (by decide)
  have absent : caseRuns.tail.findSome? (·.lower? c) = none := by
    rw [List.findSome?_eq_none_iff]
    intro run listed
    have above := first_of_mem_tail run listed
    simp only [CaseRun.lower?, ite_eq_right_iff]
    omega
  rw [lowerChar, if_neg notDotted, caseRuns_eq, List.findSome?_cons, absent, ← lower?_ascii ascii]
  cases CaseRun.lower? _ c <;> rfl

theorem ascii_of_lowerChar {c : Char} (ascii : ∀ d ∈ lowerChar c, d.toNat < 128 ∧ d ≠ 'k') :
    c.toNat < 128 := by
  rcases lowerChar_cases c with ⟨run, listed, small, found, lower⟩ | rfl | ⟨notDotted, absent⟩
  · rw [lower, List.forall_mem_singleton] at ascii
    exact CaseRun.ascii_of_lower? listed found ascii.1 ascii.2
  · rw [lowerChar_dotted] at ascii
    have mark := ascii (Char.ofNat 0x307) (by simp)
    exact absurd mark.1 (by decide)
  · rw [(isSmall_of_absent notDotted absent).fixed, List.forall_mem_singleton] at ascii
    exact ascii.1

theorem ascii_of_lowerFrom {before chars : List Char}
    (ascii : ∀ d ∈ lowerFrom before chars, d.toNat < 128 ∧ d ≠ 'k') :
    ∀ c ∈ chars, c.toNat < 128 := by
  induction chars generalizing before with
  | nil => simp
  | cons c after ih =>
      rw [lowerFrom, List.forall_mem_append] at ascii
      rw [List.forall_mem_cons]
      refine ⟨?_, ih ascii.2⟩
      by_cases sigma : c = 'Σ'
      · rw [if_pos sigma, List.forall_mem_singleton] at ascii
        rcases lowerSigma_cases before after with final | inner
        · rw [final] at ascii
          exact absurd ascii.1.1 (by decide)
        · rw [inner] at ascii
          exact absurd ascii.1.1 (by decide)
      · rw [if_neg sigma] at ascii
        exact ascii_of_lowerChar ascii.1

theorem lowerFrom_of_ascii {chars : List Char} (ascii : ∀ c ∈ chars, c.toNat < 128)
    (before : List Char) : lowerFrom before chars = chars.map Char.toLower := by
  induction chars generalizing before with
  | nil => rfl
  | cons c after ih =>
      rw [List.forall_mem_cons] at ascii
      have notSigma : c ≠ 'Σ' := by
        rintro rfl
        exact absurd ascii.1 (by decide)
      rw [lowerFrom, if_neg notSigma, lowerChar_of_ascii ascii.1, ih ascii.2,
        List.singleton_append, List.map_cons]

theorem toList_toLower (text : String) : text.toLower.toList = text.toList.map Char.toLower :=
  String.toList_map

/-- The lower case of ASCII letters brings no other character into ASCII. -/
theorem ascii_of_toLower {text : String} (ascii : ∀ c ∈ text.toLower.toList, c.toNat < 128) :
    ∀ c ∈ text.toList, c.toNat < 128 := by
  rw [toList_toLower, List.forall_mem_map] at ascii
  intro c member
  have small := ascii c member
  unfold Char.toLower at small
  split at small
  · next upper =>
    have below : c.toNat ≤ 'Z'.toNat := UInt32.le_iff_toNat_le.mp upper.2
    exact Nat.lt_of_le_of_lt below (by decide)
  · exact small

theorem lowercase_of_ascii {text : String} (ascii : ∀ c ∈ text.toList, c.toNat < 128) :
    lowercase text = text.toLower := by
  rw [lowercase, lowerFrom_of_ascii ascii, ← String.toList_inj, String.toList_ofList,
    toList_toLower]

/-- Lower case gives an ASCII text without the letter `k` exactly if the lower case of ASCII letters
gives it. -/
theorem lowercase_eq_iff {text name : String}
    (plain : ∀ c ∈ name.toList, c.toNat < 128 ∧ c ≠ 'k') :
    lowercase text = name ↔ text.toLower = name := by
  constructor
  · rintro rfl
    rw [lowercase, String.toList_ofList] at plain
    exact (lowercase_of_ascii (ascii_of_lowerFrom plain)).symm
  · rintro rfl
    apply lowercase_of_ascii
    apply ascii_of_toLower
    intro c member
    exact (plain c member).1

end Ascii

end ArithLex.Unicode
