import ArithLex.Directory
import ArithLex.Proofs.Text.Lines

set_option autoImplicit false

/-! Writing to one file, and what it leaves as it was: a path that does not lead to that file leads
where it led before. -/
namespace ArithLex.Directory

variable {directory before after : Directory} {place other folder : List String}

@[simp] theorem origin_put (directory : Directory) (place : List String) (node : Node)
    (path : String) : (directory.put place node).origin path = directory.origin path := rfl

@[simp] theorem holdsWorking_put (directory : Directory) (place other : List String)
    (node : Node) : (directory.put place node).holdsWorking other = directory.holdsWorking other :=
  rfl

theorem apart_of_node? (unfolded : directory.node? place ≠ some .folder) :
    directory.holdsWorking place = false := by
  by_contra holds
  exact unfolded (by simp [node?, holds])

theorem node?_put_self (directory : Directory) (node : Node)
    (apart : directory.holdsWorking place = false) :
    (directory.put place node).node? place = some node := by
  simp only [node?, holdsWorking_put, apart]
  simp [put]

theorem node?_put_of_ne (directory : Directory) (node : Node) (apart : other ≠ place) :
    (directory.put place node).node? other = directory.node? other := by
  have passedOver : (place == other) = false := by simp [Ne.symm apart]
  simp only [node?, holdsWorking_put]
  simp only [put, List.find?_cons, passedOver, List.find?_filter]
  congr 3
  funext entry
  by_cases found : entry.1 = other
  · simp [found, apart]
  · simp [found]

theorem put_put (directory : Directory) (place : List String) (first second : Node) :
    (directory.put place first).put place second = directory.put place second := by
  simp [put, List.filter_filter]

theorem append_eq {old : List UInt8} (holds : directory.node? place = some (.file old))
    (bytes : List UInt8) :
    directory.append place bytes = directory.put place (.file (old ++ bytes)) := by
  simp [append, holds]

/-- Two writes at the end of a file are one write. -/
theorem append_append (directory : Directory) (place : List String) (first second : List UInt8) :
    (directory.append place first).append place second =
      directory.append place (first ++ second) := by
  cases holds : directory.node? place with
  | none => simp [append, holds]
  | some node =>
    cases node with
    | folder => simp [append, holds]
    | file old =>
      have unfolded : directory.node? place ≠ some .folder := by simp [holds]
      have written := node?_put_self directory (.file (old ++ first)) (apart_of_node? unfolded)
      rw [append_eq holds, append_eq holds, append_eq written, put_put, List.append_assoc]

/-- The second directory has a file at the place, where the first may have had one too but no
folder; everywhere else they hold the same. -/
structure WritesAt (place : List String) (before after : Directory) : Prop where
  working : after.working = before.working
  elsewhere : ∀ other, other ≠ place → after.node? other = before.node? other
  unfolded : before.node? place ≠ some .folder
  holds : ∃ bytes, after.node? place = some (.file bytes)

theorem WritesAt.refl {bytes : List UInt8} (holds : directory.node? place = some (.file bytes)) :
    WritesAt place directory directory :=
  ⟨rfl, fun _ _ => rfl, by simp [holds], bytes, holds⟩

theorem WritesAt.put (unfolded : directory.node? place ≠ some .folder) (bytes : List UInt8) :
    WritesAt place directory (directory.put place (.file bytes)) where
  working := rfl
  elsewhere _ apart := node?_put_of_ne directory _ apart
  unfolded := unfolded
  holds := ⟨bytes, node?_put_self directory _ (apart_of_node? unfolded)⟩

theorem WritesAt.append (written : WritesAt place before after) (bytes : List UInt8) :
    WritesAt place before (after.append place bytes) := by
  obtain ⟨old, holds⟩ := written.holds
  rw [append_eq holds]
  have unfolded : after.node? place ≠ some .folder := by simp [holds]
  refine ⟨written.working, ?_, written.unfolded, _,
    node?_put_self after _ (apart_of_node? unfolded)⟩
  intro other apart
  rw [node?_put_of_ne after _ apart, written.elsewhere other apart]

theorem WritesAt.symm {bytes : List UInt8} (written : WritesAt place before after)
    (held : before.node? place = some (.file bytes)) : WritesAt place after before := by
  obtain ⟨new, holds⟩ := written.holds
  exact ⟨written.working.symm, fun other apart => (written.elsewhere other apart).symm,
    by simp [holds], bytes, held⟩

/-- What a path leads to before and after a write at the place: to the same, or to the file that was
written, or both times nowhere. -/
inductive Moved (place : List String) :
    Except AccessError Target → Except AccessError Target → Prop where
  | same (found : Except AccessError Target) : Moved place found found
  | lost (first second : AccessError) : Moved place (.error first) (.error second)
  | made (cause : AccessError) (bytes : List UInt8) :
      Moved place (.error cause) (.ok ⟨place, .file bytes⟩)
  | changed (old new : List UInt8) :
      Moved place (.ok ⟨place, .file old⟩) (.ok ⟨place, .file new⟩)

theorem Moved.eq_folder {found : Except AccessError Target}
    (moved : Moved place (.ok ⟨folder, .folder⟩) found) : found = .ok ⟨folder, .folder⟩ := by
  cases moved
  rfl

theorem Moved.eq_file {found : Except AccessError Target} {bytes : List UInt8}
    (moved : Moved place (.ok ⟨place, .file bytes⟩) found) :
    ∃ new, found = .ok ⟨place, .file new⟩ := by
  cases moved with
  | same => exact ⟨bytes, rfl⟩
  | changed _ new => exact ⟨new, rfl⟩

/-- What is found by looking a place up. -/
def lookUp (directory : Directory) (place : List String) : Except AccessError Target :=
  match directory.node? place with
  | some node => .ok ⟨place, node⟩
  | none => .error .notFound

/-- A name is looked up in the directory, unless what becomes of it does not depend on the
directory at all. -/
theorem enter_looks_up (folder : List String) (name : String) :
    (∀ directory : Directory, directory.enter folder name = directory.lookUp (folder ++ [name])) ∨
    ∃ result, (∀ directory : Directory, directory.enter folder name = result) ∧
      result ≠ .error .notFound ∧ ∀ place bytes, result ≠ .ok ⟨place, .file bytes⟩ := by
  by_cases here : name = "" ∨ name = "."
  · exact Or.inr ⟨.ok ⟨folder, .folder⟩, by simp [enter, here]⟩
  by_cases up : name = ".."
  · exact Or.inr ⟨.ok ⟨folder.dropLast, .folder⟩, by simp [enter, up]⟩
  by_cases long : maxName < name.utf8ByteSize
  · exact Or.inr ⟨.error .nameTooLong, by simp [enter, here, up, long]⟩
  · refine Or.inl ?_
    intro directory
    simp only [enter, here, up, long, ↓reduceIte]
    rfl

theorem enter_moved (written : WritesAt place before after) (folder : List String) (name : String) :
    Moved place (before.enter folder name) (after.enter folder name) := by
  rcases enter_looks_up folder name with looked | ⟨result, fixed, -⟩
  · rw [looked, looked, lookUp, lookUp]
    by_cases here : folder ++ [name] = place
    · obtain ⟨bytes, holds⟩ := written.holds
      rw [here, holds]
      match held : before.node? place with
      | none => exact .made _ bytes
      | some .folder => exact absurd held written.unfolded
      | some (.file old) => exact .changed old bytes
    · rw [written.elsewhere _ here]
      exact .same _
  · rw [fixed, fixed]
    exact .same _

theorem walk_moved (written : WritesAt place before after) (folder : List String)
    (names : List String) : Moved place (before.walk folder names) (after.walk folder names) := by
  induction names generalizing folder with
  | nil => exact .same _
  | cons name rest ih =>
    have entered := enter_moved written folder name
    simp only [walk]
    generalize before.enter folder name = first at entered ⊢
    generalize after.enter folder name = second at entered ⊢
    cases entered with
    | same =>
      match first with
      | .error _ => exact .same _
      | .ok ⟨reached, .folder⟩ => exact ih reached
      | .ok ⟨_, .file _⟩ => exact .same _
    | lost first second => exact .lost first second
    | made cause bytes =>
      cases rest with
      | nil => exact .made cause bytes
      | cons next further => exact .lost cause .notDirectory
    | changed old new =>
      cases rest with
      | nil => exact .changed old new
      | cons next further => exact .same _

theorem resolve_moved (written : WritesAt place before after) (path : String) :
    Moved place (before.resolve path) (after.resolve path) := by
  have origin : after.origin path = before.origin path := by
    simp only [Directory.origin, written.working]
  cases checked : checkPath path with
  | error cause => simpa [resolve, checked, bind, Except.bind] using Moved.same _
  | ok _ => simpa [resolve, checked, origin, bind, Except.bind] using walk_moved written _ _

theorem readText_eq_ok_iff {path text : String} :
    directory.readText path = .ok text ↔ directory.read path = .ok (Text.encode text) := by
  cases read : directory.read path with
  | error cause => simp [readText, read, bind, Except.bind]
  | ok bytes =>
    rw [Except.ok.injEq, ← Text.decode?_eq_some_iff]
    cases decoded : Text.decode? bytes <;> simp [readText, read, decoded, bind, Except.bind]

/-- A path that does not lead to the file that was written gives the text that it gave before. -/
theorem readText_of_apart (written : WritesAt place before after) {path : String}
    (apart : ∀ bytes, after.resolve path ≠ .ok ⟨place, .file bytes⟩) (text : String) :
    after.readText path = .ok text ↔ before.readText path = .ok text := by
  have moved := resolve_moved written path
  simp only [readText, read]
  generalize before.resolve path = first at moved ⊢
  generalize after.resolve path = second at moved apart ⊢
  cases moved with
  | same found => exact Iff.rfl
  | lost first second => simp [bind, Except.bind]
  | made cause bytes => exact absurd rfl (apart bytes)
  | changed old new => exact absurd rfl (apart new)

/-- The paths lead to the same file. -/
def SameFile (directory : Directory) (first second : String) : Prop :=
  ∃ place one two, directory.resolve first = .ok ⟨place, .file one⟩ ∧
    directory.resolve second = .ok ⟨place, .file two⟩

theorem walk_append {names : List String} {reached : List String}
    (walked : directory.walk folder names = .ok ⟨reached, .folder⟩) (further : List String) :
    directory.walk folder (names ++ further) = directory.walk reached further := by
  induction names generalizing folder with
  | nil =>
    cases walked
    rfl
  | cons name rest ih =>
    simp only [walk, List.cons_append] at walked ⊢
    match entered : directory.enter folder name with
    | .error cause => simp [entered] at walked
    | .ok ⟨next, .folder⟩ =>
      simp only [entered] at walked
      exact ih walked
    | .ok ⟨next, .file bytes⟩ =>
      cases rest <;> simp [entered] at walked

theorem enter_file {name : String} {bytes : List UInt8}
    (entered : directory.enter folder name = .ok ⟨place, .file bytes⟩) :
    directory.node? place = some (.file bytes) := by
  rcases enter_looks_up folder name with looked | ⟨result, fixed, -, noFile⟩
  · rw [looked, lookUp] at entered
    cases held : directory.node? (folder ++ [name]) with
    | none => simp [held] at entered
    | some node =>
      simp only [held, Except.ok.injEq, Target.mk.injEq] at entered
      rw [← entered.1, held, entered.2]
  · rw [fixed] at entered
    exact absurd entered (noFile place bytes)

/-- A name that leads nowhere leads to a file once one is put there. -/
theorem enter_put {name : String} (entered : directory.enter folder name = .error .notFound)
    (bytes : List UInt8) :
    directory.node? (folder ++ [name]) = none ∧
      (directory.put (folder ++ [name]) (.file bytes)).enter folder name =
        .ok ⟨folder ++ [name], .file bytes⟩ := by
  rcases enter_looks_up folder name with looked | ⟨result, fixed, found, -⟩
  · rw [looked, lookUp] at entered
    cases held : directory.node? (folder ++ [name]) with
    | some node => simp [held] at entered
    | none =>
      have unfolded : directory.node? (folder ++ [name]) ≠ some .folder := by simp [held]
      refine ⟨rfl, ?_⟩
      rw [looked, lookUp, node?_put_self directory _ (apart_of_node? unfolded)]
  · rw [fixed] at entered
    exact absurd entered found

/-- A file that was opened for writing was there, or its folder was and it has been made. -/
theorem openEnd_cases {path : String} (opened : before.openEnd path = .ok (after, place)) :
    ∃ (earlier : List String) (last : String) (folder : List String),
      checkPath path = .ok () ∧ names path = earlier ++ [last] ∧
      before.walk (before.origin path) earlier = .ok ⟨folder, .folder⟩ ∧
      ((∃ bytes, before.enter folder last = .ok ⟨place, .file bytes⟩ ∧ after = before) ∨
        (before.enter folder last = .error .notFound ∧ place = folder ++ [last] ∧
          after = before.put place (.file []))) := by
  unfold openEnd at opened
  cases checked : checkPath path with
  | error cause => simp [checked, bind, Except.bind] at opened
  | ok _ =>
    cases backward : (names path).reverse.dropWhile (· == "") with
    | nil => simp [checked, backward, bind, Except.bind] at opened
    | cons last earlier =>
      simp only [checked, backward, bind, Except.bind] at opened
      match walked : before.walk (before.origin path) earlier.reverse with
      | .error cause => simp [walked] at opened
      | .ok ⟨_, .file _⟩ => simp [walked] at opened
      | .ok ⟨folder, .folder⟩ =>
        simp only [walked, ne_eq, not_true_eq_false, ↓reduceIte] at opened
        split at opened
        · cases opened
        · next plain =>
          -- the path does not end in a slash, so nothing was dropped at its end
          have whole : (names path).reverse = last :: earlier := by
            cases reversed : (names path).reverse with
            | nil => simp [reversed] at backward
            | cons first others =>
              have named : first ≠ "" := by
                rintro rfl
                simp [reversed] at plain
              rw [← backward, reversed, List.dropWhile_cons_of_neg (by simp [named])]
          refine ⟨earlier.reverse, last, folder, rfl, ?_, walked, ?_⟩
          · rw [← List.reverse_reverse (names path), whole, List.reverse_cons]
          match entered : before.enter folder last with
          | .ok ⟨found, .file bytes⟩ =>
            simp only [entered, Except.ok.injEq, Prod.mk.injEq] at opened
            exact Or.inl ⟨bytes, by rw [opened.2], opened.1.symm⟩
          | .ok ⟨found, .folder⟩ => simp [entered] at opened
          | .error cause =>
            cases cause <;> simp [entered] at opened
            exact Or.inr ⟨rfl, opened.2.symm, by rw [← opened.1, opened.2]⟩

/-- The path of a file that was opened for writing leads to it, and nothing else has changed. -/
theorem openEnd_writes {path : String} (opened : before.openEnd path = .ok (after, place)) :
    WritesAt place before after ∧ ∃ bytes, after.resolve path = .ok ⟨place, .file bytes⟩ := by
  obtain ⟨earlier, last, folder, checked, named, walked, present | made⟩ := openEnd_cases opened
  · obtain ⟨bytes, entered, rfl⟩ := present
    refine ⟨.refl (enter_file entered), bytes, ?_⟩
    simp [resolve, checked, named, walk_append walked, walk, entered, bind, Except.bind]
  · obtain ⟨entered, rfl, rfl⟩ := made
    obtain ⟨absent, found⟩ := enter_put entered []
    have written : WritesAt (folder ++ [last]) before (before.put (folder ++ [last]) (.file [])) :=
      .put (by simp [absent]) []
    have still : (before.put (folder ++ [last]) (.file [])).walk (before.origin path) earlier =
        .ok ⟨folder, .folder⟩ := by
      have moved := walk_moved written (before.origin path) earlier
      rw [walked] at moved
      exact moved.eq_folder
    refine ⟨written, [], ?_⟩
    simp [resolve, checked, named, walk_append still, walk, found, bind, Except.bind]

/-- Writing to a file that was opened for it leaves the texts of all other files as they were. -/
theorem readText_append {path log : String} (opened : before.openEnd log = .ok (after, place))
    (apart : ¬ after.SameFile log path) (bytes : List UInt8) (text : String) :
    (after.append place bytes).readText path = .ok text ↔ before.readText path = .ok text := by
  obtain ⟨written, old, reached⟩ := openEnd_writes opened
  obtain ⟨held, holds⟩ := written.holds
  refine readText_of_apart (written.append bytes) ?_ text
  intro new found
  -- seen from behind, opening the file again would be a write too, so the path led to it before
  have moved := resolve_moved (((WritesAt.refl holds).append bytes).symm holds) path
  rw [found] at moved
  obtain ⟨earlier, led⟩ := moved.eq_file
  exact apart ⟨place, old, earlier, reached, led⟩

/-- From the root, the names of the working directory lead to it, so a file below it has the same
place whichever way a path takes. -/
theorem walk_working
    (plain : ∀ name ∈ directory.working, name ≠ "" ∧ name ≠ "." ∧ name ≠ ".." ∧
      name.utf8ByteSize ≤ maxName) (names : List String) :
    directory.walk [] (directory.working ++ names) = directory.walk directory.working names := by
  have way (above below : List String) (split : directory.working = above ++ below) :
      directory.walk above below = .ok ⟨directory.working, .folder⟩ := by
    induction below generalizing above with
    | nil => rw [walk, split, List.append_nil]
    | cons name below ih =>
      have further : directory.working = (above ++ [name]) ++ below := by
        rw [split, List.append_assoc, List.singleton_append]
      have member : name ∈ directory.working := by simp [split]
      obtain ⟨nonempty, notHere, notUp, short⟩ := plain name member
      have found : directory.node? (above ++ [name]) = some .folder := by
        simp [node?, holdsWorking, further]
      have entered : directory.enter above name = .ok ⟨above ++ [name], .folder⟩ := by
        simp [enter, nonempty, notHere, notUp, Nat.not_lt.mpr short, found]
      rw [walk, entered]
      exact ih (above ++ [name]) further
  exact walk_append (way [] directory.working rfl) names

/-- A path that leads to a file leads to what the directory has at that place. -/
theorem walk_file {names : List String} {bytes : List UInt8}
    (walked : directory.walk folder names = .ok ⟨place, .file bytes⟩) :
    directory.node? place = some (.file bytes) := by
  induction names generalizing folder with
  | nil => cases walked
  | cons name rest ih =>
    simp only [walk] at walked
    match entered : directory.enter folder name with
    | .error cause => simp [entered] at walked
    | .ok ⟨next, .folder⟩ =>
      simp only [entered] at walked
      exact ih walked
    | .ok ⟨next, .file found⟩ =>
      simp only [entered] at walked
      split at walked
      · cases walked
        exact enter_file entered
      · cases walked

theorem resolve_file {path : String} {bytes : List UInt8}
    (resolved : directory.resolve path = .ok ⟨place, .file bytes⟩) :
    directory.node? place = some (.file bytes) := by
  cases checked : checkPath path with
  | error cause => simp [resolve, checked, bind, Except.bind] at resolved
  | ok _ =>
    simp only [resolve, checked, bind, Except.bind] at resolved
    exact walk_file resolved

theorem read_of_resolve {path : String} {bytes : List UInt8}
    (resolved : directory.resolve path = .ok ⟨place, .file bytes⟩) :
    directory.read path = .ok bytes := by
  simp [read, resolved, bind, Except.bind]

/-- A file that is written at its end is still where it was, and has what it had in front of what
was written. -/
theorem resolve_append {path : String} {old : List UInt8}
    (resolved : directory.resolve path = .ok ⟨place, .file old⟩) (bytes : List UInt8) :
    (directory.append place bytes).resolve path = .ok ⟨place, .file (old ++ bytes)⟩ := by
  have holds := resolve_file resolved
  have moved := resolve_moved ((WritesAt.refl holds).append bytes) path
  rw [resolved] at moved
  obtain ⟨new, found⟩ := moved.eq_file
  have unfolded : directory.node? place ≠ some .folder := by simp [holds]
  have written : (directory.append place bytes).node? place = some (.file (old ++ bytes)) := by
    rw [append_eq holds]
    exact node?_put_self directory _ (apart_of_node? unfolded)
  have same := resolve_file found
  rw [written, Option.some.injEq] at same
  rw [found, same]

/-- Opening a file for writing keeps what it has; a file that was not there is empty then. -/
theorem openEnd_content {path : String} (opened : before.openEnd path = .ok (after, place)) :
    ∃ old, after.resolve path = .ok ⟨place, .file old⟩ ∧
      (before.read path = .ok old ∨ before.read path = .error .notFound ∧ old = []) := by
  obtain ⟨written, old, reached⟩ := openEnd_writes opened
  refine ⟨old, reached, ?_⟩
  obtain ⟨earlier, last, folder, checked, named, walked, present | made⟩ := openEnd_cases opened
  · obtain ⟨_, _, rfl⟩ := present
    exact Or.inl (read_of_resolve reached)
  · obtain ⟨entered, rfl, rfl⟩ := made
    have absent : before.resolve path = .error .notFound := by
      simp [resolve, checked, named, walk_append walked, walk, entered, bind, Except.bind]
    have empty := resolve_file reached
    have unfolded := written.unfolded
    rw [node?_put_self before _ (apart_of_node? unfolded), Option.some.injEq, Node.file.injEq]
      at empty
    exact Or.inr ⟨by simp [read, absent, bind, Except.bind], empty.symm⟩

end ArithLex.Directory
