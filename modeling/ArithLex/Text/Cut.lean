set_option autoImplicit false

/-! Lists cut behind their marks. -/
namespace ArithLex.Text

/-- The pieces keep their marks, and none of them is empty. -/
def cutBehind {α : Type} [DecidableEq α] (mark : α) (items : List α) : List (List α) :=
  items.foldr
    (fun item later =>
      if item = mark then [item] :: later
      -- behind the last mark there may be nothing that the item could join
      else match later with
        | [] => [[item]]
        | piece :: rest => (item :: piece) :: rest)
    []

end ArithLex.Text
