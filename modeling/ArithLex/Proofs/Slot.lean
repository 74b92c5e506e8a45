import ArithLex.Proofs.Scan.Step
import ArithLex.Slot

set_option autoImplicit false

/-! The shared style over any history of calls: the first call that settles it decides for all later
ones, and no scan depends on what it decided. -/
namespace ArithLex.Slot

/-- The slot behind some calls, whether they were misuses or not. -/
def after (slot : Slot) (calls : List Call) : Slot :=
  calls.foldl (fun slot call => (slot.call call).1) slot

@[simp] theorem after_nil (slot : Slot) : slot.after [] = slot := rfl

@[simp] theorem after_cons (slot : Slot) (call : Call) (calls : List Call) :
    slot.after (call :: calls) = (slot.call call).1.after calls := rfl

theorem after_append (slot : Slot) (calls later : List Call) :
    slot.after (calls ++ later) = (slot.after calls).after later :=
  List.foldl_append

/-- The calls that leave a style behind in an empty slot. -/
inductive Call.Settles : Call → Prop where
  | set (style : Style) : Settles (.set style)
  | quick (text : String) : Settles (.quick text)

/-- The slot that was empty before these calls: the first of them that settles the style decides,
whatever comes later. -/
inductive Decided : List Call → Slot → Prop where
  | unsettled {calls : List Call} : (∀ call ∈ calls, ¬ call.Settles) → Decided calls none
  | set {before later : List Call} {style : Style} : (∀ call ∈ before, ¬ call.Settles) →
      Decided (before ++ .set style :: later) (some style)
  | quick {before later : List Call} {text : String} : (∀ call ∈ before, ¬ call.Settles) →
      Decided (before ++ .quick text :: later) (some ({} : Settings).output)

/-- No call changes a style that is set. -/
theorem call_of_set (style : Style) (next : Call) :
    (call (some style) next).1 = some style := by
  cases next <;> rfl

theorem after_of_set (style : Style) (calls : List Call) :
    after (some style) calls = some style := by
  induction calls with
  | nil => rfl
  | cons call calls ih => rw [after_cons, call_of_set, ih]

/-- A call that does not settle the style leaves an empty slot empty. -/
theorem call_of_quiet {call : Call} (quiet : ¬ call.Settles) : (empty.call call).1 = empty := by
  cases call with
  | set style => exact absurd (.set style) quiet
  | quick text => exact absurd (.quick text) quiet
  | get => rfl
  | isSet => rfl
  | scan source => rfl

theorem Decided.cons {call : Call} {calls : List Call} {slot : Slot} (quiet : ¬ call.Settles)
    (decided : Decided calls slot) : Decided (call :: calls) slot := by
  have still : ∀ {before : List Call}, (∀ earlier ∈ before, ¬ earlier.Settles) →
      ∀ earlier ∈ call :: before, ¬ earlier.Settles := by
    intro before all earlier member
    rcases List.mem_cons.mp member with rfl | inside
    · exact quiet
    · exact all earlier inside
  cases decided with
  | unsettled all => exact .unsettled (still all)
  | @set before later style all =>
    show Decided ((call :: before) ++ .set style :: later) _
    exact .set (still all)
  | @quick before later text all =>
    show Decided ((call :: before) ++ .quick text :: later) _
    exact .quick (still all)

theorem decided_after (calls : List Call) : Decided calls (empty.after calls) := by
  induction calls with
  | nil => exact .unsettled (by simp)
  | cons call calls ih =>
    by_cases settles : call.Settles
    · cases settles with
      | set style =>
        have set : empty.after (.set style :: calls) = some style := after_of_set style calls
        rw [set]
        show Decided ([] ++ .set style :: calls) _
        exact .set (by simp)
      | quick text =>
        have set : empty.after (.quick text :: calls) = some {} := after_of_set {} calls
        rw [set]
        show Decided ([] ++ .quick text :: calls) _
        exact .quick (by simp)
    · rw [after_cons, call_of_quiet settles]
      exact ih.cons settles

/-- How a slot answers every call. -/
structure Answers (slot : Slot) : Prop where
  set_ok : ∀ style, (slot.call (.set style)).2 = .ok .done ↔ slot = none
  set_misuse : ∀ style misuse,
    (slot.call (.set style)).2 = .error misuse ↔ slot ≠ none ∧ misuse = .alreadySet style
  get_ok : ∀ style, (slot.call .get).2 = .ok (.style style) ↔ slot = some style
  get_misuse : ∀ misuse, (slot.call .get).2 = .error misuse ↔ slot = none ∧ misuse = .notSet
  isSet_ok : (slot.call .isSet).2 = .ok (.isSet slot.isSome)
  scan_ok : ∀ source style answer, (slot.call (.scan source)).2 = .ok answer ↔
    slot ≠ none ∧ answer = .scanned (tokenize source style).result
  scan_misuse : ∀ source misuse,
    (slot.call (.scan source)).2 = .error misuse ↔ slot = none ∧ misuse = .notSet
  quick_ok : ∀ text style,
    (slot.call (.quick text)).2 = .ok (.scanned (tokenize ⟨"<stdin>", text⟩ style).result)
  misuse_keeps : ∀ call misuse, (slot.call call).2 = .error misuse → (slot.call call).1 = slot

/-- A scan gives the same in every style. -/
theorem tokenize_any_style (source : Source) (style other : Style) :
    (tokenize source style).result = (tokenize source other).result := by
  rw [tokenize_result, tokenize_result]

theorem misuse_keeps (slot : Slot) (call : Call) (misuse : Misuse)
    (refused : (slot.call call).2 = .error misuse) : (slot.call call).1 = slot := by
  cases call with
  | set style =>
    cases slot with
    | none => cases refused
    | some held => rfl
  | quick text => cases refused
  | get => rfl
  | isSet => rfl
  | scan source => rfl

theorem answers (slot : Slot) : Answers slot where
  set_ok style := by cases slot <;> simp [call, set]
  set_misuse style misuse := by cases slot <;> simp [call, set, eq_comm]
  get_ok style := by cases slot <;> simp [call, get, Except.map]
  get_misuse misuse := by cases slot <;> simp [call, get, Except.map, eq_comm]
  isSet_ok := rfl
  scan_ok source style answer := by
    cases slot with
    | none => simp [call, get, Except.map]
    | some held => simp [call, get, Except.map, tokenize_any_style source held style, eq_comm]
  scan_misuse source misuse := by cases slot <;> simp [call, get, Except.map, eq_comm]
  quick_ok text style := by
    rw [tokenize_any_style _ style (slot.getD {})]
    rfl
  misuse_keeps := misuse_keeps slot

/-- The message of a refused style tells which one it was. -/
theorem message_injective (rejected other : Style)
    (same : (Misuse.alreadySet rejected).message = (Misuse.alreadySet other).message) :
    rejected = other := by
  have described : rejected.describe = other.describe :=
    (String.append_right_inj "Config already initialized: ").mp same
  have chars := congrArg String.toList described
  clear same described
  unfold Style.describe at chars
  simp only [String.toList_append, List.append_assoc, List.append_right_inj] at chars
  obtain ⟨showArrows, format⟩ := rejected
  obtain ⟨otherArrows, otherFormat⟩ := other
  revert chars
  cases showArrows <;> cases format <;> cases otherArrows <;> cases otherFormat <;> decide

/-- The first call that settles the style decides it for good. Behind every history of calls, a call
is a misuse exactly if it comes out of turn, a misuse changes nothing, and a scan gives what it
would give in any other style. -/
theorem settled_once (calls : List Call) :
    Decided calls (empty.after calls) ∧
      (∀ style later, empty.after calls = some style →
        empty.after (calls ++ later) = some style) ∧
      Answers (empty.after calls) ∧
      ∀ rejected other, (Misuse.alreadySet rejected).message = (Misuse.alreadySet other).message →
        rejected = other := by
  refine ⟨decided_after calls, ?_, answers _, message_injective⟩
  intro style later settled
  rw [after_append, settled, after_of_set]

end ArithLex.Slot
