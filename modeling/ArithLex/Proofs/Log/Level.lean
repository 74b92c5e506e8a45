import ArithLex.Log.Level
import ArithLex.Proofs.Unicode.Lowercase

set_option autoImplicit false

/-! The names that ask for a level. They are compared in lower case, and no name can be got from
letters outside ASCII. -/
namespace ArithLex.Log.Level

/-- The names of the levels. Silent still lets errors through. -/
def named : List (String × Level) :=
  [("silent", error), ("error", error), ("warn", warn), ("info", info), ("debug", debug),
   ("trace", trace)]

theorem keyword_named (level : Level) : (level.keyword, level) ∈ named := by
  cases level <;> decide

/-- No name has a letter that a letter outside ASCII could turn into. -/
theorem plain_named {name : String} {level : Level} (member : (name, level) ∈ named) :
    ∀ c ∈ name.toList, c.toNat < 128 ∧ c ≠ 'k' := by
  have all : ∀ entry ∈ named,
      entry.1.toList.all (fun c => decide (c.toNat < 128 ∧ c ≠ 'k')) = true := by
    decide
  intro c inside
  exact of_decide_eq_true (List.all_eq_true.mp (all _ member) c inside)

theorem ofArgument_eq_ok_iff {argument : String} {level : Level} :
    ofArgument argument = .ok level ↔
      ∃ name, (name, level) ∈ named ∧ Unicode.lowercase argument = name := by
  unfold ofArgument
  generalize Unicode.lowercase argument = lower
  constructor
  · intro read
    dsimp only at read
    split at read
    · next silent =>
      cases read
      exact ⟨"silent", by decide, silent⟩
    · split at read
      · next found =>
        cases read
        have same := List.find?_some found
        exact ⟨level.keyword, keyword_named level, (beq_iff_eq.mp same).symm⟩
      · cases read
  · rintro ⟨name, member, rfl⟩
    simp only [named, List.mem_cons, Prod.mk.injEq, List.not_mem_nil, or_false] at member
    rcases member with ⟨rfl, rfl⟩ | ⟨rfl, rfl⟩ | ⟨rfl, rfl⟩ | ⟨rfl, rfl⟩ | ⟨rfl, rfl⟩ | ⟨rfl, rfl⟩
    all_goals rfl

theorem unknown_of_error {argument : String} {unknown : Unknown}
    (failed : ofArgument argument = .error unknown) :
    unknown = ⟨Unicode.lowercase argument⟩ := by
  unfold ofArgument at failed
  dsimp only at failed
  split at failed
  · cases failed
  · split at failed
    · cases failed
    · cases failed
      rfl

/-- A level is read from one of its names in any case of the ASCII letters, and from nothing else, so
an argument with a character outside ASCII is unknown. An argument and its lower case are read alike,
and one that is unknown is reported in lower case. -/
theorem ofArgument_up_to_case (argument : String) :
    (∀ level, ofArgument argument = .ok level ↔
      ∃ name, (name, level) ∈ named ∧ argument.toLower = name) ∧
    (∀ level, ofArgument argument = .ok level → ∀ c ∈ argument.toList, c.toNat < 128) ∧
    ofArgument (Unicode.lowercase argument) = ofArgument argument ∧
    ∀ unknown, ofArgument argument = .error unknown →
      unknown.message = "unknown log level '" ++ Unicode.lowercase argument
        ++ "' (expected silent, error, warn, info, debug or trace)" := by
  have accepted (level : Level) : ofArgument argument = .ok level ↔
      ∃ name, (name, level) ∈ named ∧ argument.toLower = name := by
    rw [ofArgument_eq_ok_iff]
    apply exists_congr
    intro name
    apply and_congr_right
    intro member
    exact Unicode.lowercase_eq_iff (plain_named member)
  refine ⟨accepted, ?_, ?_, ?_⟩
  · intro level read
    obtain ⟨name, member, rfl⟩ := (accepted level).mp read
    apply Unicode.ascii_of_toLower
    intro c inside
    exact (plain_named member c inside).1
  · unfold ofArgument
    rw [Unicode.lowercase_lowercase]
  · intro unknown failed
    rw [unknown_of_error failed]
    rfl

/-- A long `s` is no `s`. -/
theorem ofArgument_up_to_case_long_s :
    (ofArgument "sIlEnT" = .ok error ∧ ∀ c ∈ "sIlEnT".toList, c.toNat < 128) ∧
      ofArgument "ſIlEnT" = .error ⟨"ſilent"⟩ ∧
      (⟨"ſilent"⟩ : Unknown).message =
        "unknown log level 'ſilent' (expected silent, error, warn, info, debug or trace)" := by
  obtain ⟨accepted, ascii, -, -⟩ := ofArgument_up_to_case "sIlEnT"
  obtain ⟨-, -, -, shown⟩ := ofArgument_up_to_case "ſIlEnT"
  have read : ofArgument "sIlEnT" = .ok error :=
    (accepted error).mpr ⟨"silent", by decide, by decide +kernel⟩
  have lower : Unicode.lowercase "ſIlEnT" = "ſilent" := by decide +kernel
  have failed : ofArgument "ſIlEnT" = .error ⟨"ſilent"⟩ := by
    unfold ofArgument
    rw [lower]
    rfl
  refine ⟨⟨read, ascii error read⟩, failed, ?_⟩
  rw [shown _ failed, lower]
  decide

end ArithLex.Log.Level
