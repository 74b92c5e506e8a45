import ArithLex.Listing
import ArithLex.Proofs.Document.Unambiguous

set_option autoImplicit false

/-! Listings in JSON. The file name and every token can be read back from the text. -/
namespace ArithLex

namespace Token

theorem Kind.ofName?_name (kind : Kind) : Kind.ofName? kind.name = some kind := by
  cases kind <;> decide

/-- Programs and people are told the same. -/
theorem Kind.tag_eq_name (kind : Kind) : kind.tag = kind.name := by
  cases kind <;> rfl

theorem Kind.name_injective {first second : Kind} (same : first.name = second.name) :
    first = second := by
  have found := ofName?_name first
  rw [same, ofName?_name] at found
  exact (Option.some.inj found).symm

theorem json_injective : Function.Injective Token.json := by
  rintro ⟨kind, text⟩ ⟨otherKind, otherText⟩ same
  simp only [Token.json, Kind.json, Kind.tag_eq_name, Json.obj.injEq, List.cons.injEq,
    Prod.mk.injEq, Json.str.injEq, true_and, and_true] at same
  rw [Kind.name_injective same.1, same.2]

end Token

namespace Listing

theorem json_injective {first second : Listing} (same : first.json = second.json) :
    first = second := by
  obtain ⟨fileName, tokens⟩ := first
  obtain ⟨otherName, others⟩ := second
  simp only [json, Json.obj.injEq, List.cons.injEq, Prod.mk.injEq, Json.str.injEq, Json.arr.injEq,
    true_and, and_true] at same
  rw [same.1, List.map_injective_iff.mpr Token.json_injective same.2]

theorem trees_tokens (tokens : List Token) :
    Json.trees (tokens.map (·.json)) = tokens.map fun token =>
      .obj [("kind", .str token.kind.name), ("text", .str token.text)] := by
  induction tokens with
  | nil => rfl
  | cons token tokens ih =>
    simp only [List.map_cons, Json.trees, ih, ← Token.Kind.tag_eq_name]
    rfl

/-- The text of a listing in JSON is a document of exactly one tree, which has the file name and the
kind and text of every token, in order. Listings that differ are written differently. -/
theorem pretty_lossless (listing : Listing) :
    (∀ tree : Document.Tree, tree.StandsIn listing.json.pretty ↔
      tree = .obj
        [("file_name", .str listing.fileName),
         ("tokens", .arr (listing.tokens.map fun token =>
           .obj [("kind", .str token.kind.name), ("text", .str token.text)]))]) ∧
      ∀ other : Listing, other.json.pretty = listing.json.pretty → other = listing := by
  constructor
  · intro tree
    rw [Json.pretty, Json.standsIn_write_iff Json.Layout.pretty_blank, ← trees_tokens]
    rfl
  · intro other same
    exact json_injective (Json.write_injective Json.Layout.pretty_blank same)

end Listing
end ArithLex
