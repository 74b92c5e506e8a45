import ArithLex.Proofs.Listing
import ArithLex.Proofs.Scan.Layout

set_option autoImplicit false

/-! Listings in one line. No token that a source can hold is shown with a comma or a bracket, so a
line of tokens comes apart in one way only, token by token from the left. -/
namespace ArithLex

namespace Token

/-- What stands behind the name of a token. -/
def tag (token : Token) : List Char :=
  if token.text = "" then [] else ':' :: token.text.toList

theorem render_toList (token : Token) :
    token.render.toList = token.kind.name.toList ++ token.tag := by
  by_cases empty : token.text = "" <;> simp [render, tag, empty]

theorem name_ne_nil (kind : Kind) : kind.name.toList ≠ [] := by
  cases kind <;> decide

theorem render_ne_nil (token : Token) : token.render.toList ≠ [] := by
  rw [render_toList]
  exact List.append_ne_nil_of_left_ne_nil (name_ne_nil token.kind) _

theorem tag_head {token : Token} : ∀ c ∈ token.tag.head?, (c != ':') = false := by
  unfold tag
  split <;> simp

theorem text_of_tag_eq {kind otherKind : Kind} {text other : String}
    (same : (⟨kind, text⟩ : Token).tag = (⟨otherKind, other⟩ : Token).tag) : text = other := by
  simp only [tag] at same
  split at same
  · next empty =>
    split at same
    · next emptyToo => rw [empty, emptyToo]
    · cases same
  · split at same
    · cases same
    · exact String.toList_inj.mp (List.cons.inj same).2

/-- A name ends at the first colon. -/
theorem render_injective : Function.Injective Token.render := by
  rintro ⟨kind, text⟩ ⟨otherKind, otherText⟩ same
  have noColon (kind : Kind) : ∀ c ∈ kind.name.toList, (c != ':') = true := by
    rw [← List.all_eq_true]
    cases kind <;> decide
  have spelled := congrArg String.toList same
  rw [render_toList, render_toList] at spelled
  obtain ⟨names, tags⟩ := Document.beginning_unique (noColon kind) (noColon otherKind)
    tag_head tag_head spelled
  have kinds : kind = otherKind := Kind.name_injective (String.toList_inj.mp names)
  rw [kinds, text_of_tag_eq tags]

/-- Characters that may show within a token. -/
def isShown (c : Char) : Bool := c != ',' && c != ']'

theorem isShown_of_isNumeral {c : Char} (numeral : isNumeral c = true) : isShown c = true := by
  have notComma : c ≠ ',' := by
    rintro rfl
    exact absurd numeral (by decide)
  have notBracket : c ≠ ']' := by
    rintro rfl
    exact absurd numeral (by decide)
  simp [isShown, notComma, notBracket]

theorem isShown_of_mem_render {token : Token} (formed : token.WellFormed) :
    ∀ c ∈ token.render.toList, isShown c = true := by
  have named (kind : Kind) : ∀ c ∈ kind.name.toList, isShown c = true := by
    rw [← List.all_eq_true]
    cases kind <;> decide
  intro c member
  rw [render_toList, List.mem_append] at member
  rcases member with inName | inTag
  · exact named token.kind c inName
  · unfold tag at inTag
    split at inTag
    · cases inTag
    · rcases List.mem_cons.mp inTag with rfl | inText
      · decide
      · exact isShown_of_isNumeral (isNumeral_of_mem_text formed inText)

end Token

namespace Listing

/-- What stands behind a token in a line: the tokens that follow, each behind a comma, and the
bracket. -/
def behind (tokens : List Token) : List Char :=
  tokens.flatMap (fun token => ',' :: ' ' :: token.render.toList) ++ [']']

@[simp] theorem behind_nil : behind [] = [']'] := rfl

@[simp] theorem behind_cons (token : Token) (rest : List Token) :
    behind (token :: rest) = ',' :: ' ' :: (token.render.toList ++ behind rest) := by
  simp only [behind, List.flatMap_cons, List.cons_append, List.append_assoc]

theorem behind_head (tokens : List Token) :
    ∀ c ∈ (behind tokens).head?, Token.isShown c = false := by
  cases tokens <;> simp [Token.isShown]

theorem text_nil (name : String) : (⟨name, []⟩ : Listing).text.toList = '[' :: behind [] := by
  simp [text]

theorem text_cons (name : String) (token : Token) (rest : List Token) :
    (⟨name, token :: rest⟩ : Listing).text.toList =
      '[' :: (token.render.toList ++ behind rest) := by
  simp only [text, String.toList_ofList, List.cons.injEq, true_and]
  induction rest generalizing token with
  | nil => simp
  | cons next rest ih =>
      have shorter := ih next
      rw [List.map_cons] at shorter
      rw [List.map_cons, List.map_cons, List.intercalate_cons_cons, List.append_assoc,
        List.append_assoc, shorter, behind_cons]
      rfl

/-- A token ends where a comma or the bracket comes. -/
theorem next_unique {token other : Token} (formed : token.WellFormed)
    (formedToo : other.WellFormed) {rest more : List Token}
    (same : token.render.toList ++ behind rest = other.render.toList ++ behind more) :
    token = other ∧ behind rest = behind more := by
  obtain ⟨renders, rests⟩ := Document.beginning_unique (Token.isShown_of_mem_render formed)
    (Token.isShown_of_mem_render formedToo) (behind_head rest) (behind_head more) same
  exact ⟨Token.render_injective (String.toList_inj.mp renders), rests⟩

theorem behind_injective {first second : List Token} (formed : ∀ token ∈ first, token.WellFormed)
    (formedToo : ∀ token ∈ second, token.WellFormed) (same : behind first = behind second) :
    first = second := by
  induction first generalizing second with
  | nil =>
      cases second with
      | nil => rfl
      | cons other more => simp at same
  | cons token rest ih =>
      cases second with
      | nil => simp at same
      | cons other more =>
          rw [List.forall_mem_cons] at formed formedToo
          simp only [behind_cons, List.cons.injEq, true_and] at same
          obtain ⟨rfl, rests⟩ := next_unique formed.1 formedToo.1 same
          rw [ih formed.2 formedToo.2 rests]

/-- A line that goes on with a token does not end at once. -/
theorem render_append_ne_bracket {token : Token} (formed : token.WellFormed)
    (tail : List Char) : token.render.toList ++ tail ≠ [']'] := by
  intro same
  obtain ⟨c, shown, spelled⟩ := List.exists_cons_of_ne_nil (Token.render_ne_nil token)
  have inside : Token.isShown c = true := by
    apply Token.isShown_of_mem_render formed
    simp [spelled]
  rw [spelled, List.cons_append, List.cons.injEq] at same
  rw [same.1] at inside
  exact absurd inside (by decide)

theorem tokens_of_text_eq {first second : Listing}
    (formed : ∀ token ∈ first.tokens, token.WellFormed)
    (formedToo : ∀ token ∈ second.tokens, token.WellFormed) (same : first.text = second.text) :
    first.tokens = second.tokens := by
  obtain ⟨name, tokens⟩ := first
  obtain ⟨otherName, others⟩ := second
  have spelled := congrArg String.toList same
  cases tokens with
  | nil =>
      cases others with
      | nil => rfl
      | cons other more =>
          rw [text_nil, text_cons, List.cons.injEq] at spelled
          exact absurd spelled.2.symm
            (render_append_ne_bracket (List.forall_mem_cons.mp formedToo).1 _)
  | cons token rest =>
      cases others with
      | nil =>
          rw [text_nil, text_cons, List.cons.injEq] at spelled
          exact absurd spelled.2 (render_append_ne_bracket (List.forall_mem_cons.mp formed).1 _)
      | cons other more =>
          rw [List.forall_mem_cons] at formed formedToo
          rw [text_cons, text_cons, List.cons.injEq] at spelled
          obtain ⟨rfl, rests⟩ := next_unique formed.1 formedToo.1 spelled.2
          rw [behind_injective formed.2 formedToo.2 rests]

/-- The tokens of a source are laid out over its text. -/
theorem exists_layout {source : Source} {style : Style} {listing : Listing}
    (scanned : (tokenize source style).result = .ok listing) :
    ∃ layout : Layout, layout.Valid ∧ layout.tokens = listing.tokens ∧
      layout.chars = source.text.toList := by
  obtain ⟨read, ok, rfl⟩ := tokenize_eq_ok_iff.mp scanned
  obtain ⟨state, passed, rfl⟩ := Scan.feed_ok_of_tokens ok
  obtain ⟨before, settled⟩ := Scan.State.feed_settled passed
  exact settled.close

theorem wellFormed_of_tokenize {source : Source} {style : Style} {listing : Listing}
    (scanned : (tokenize source style).result = .ok listing) :
    ∀ token ∈ listing.tokens, token.WellFormed := by
  obtain ⟨layout, valid, same, -⟩ := exists_layout scanned
  rw [← same]
  intro token member
  obtain ⟨spaced, inBody, rfl⟩ := List.mem_map.mp member
  exact valid.formed spaced inBody

/-- A listing in one line can be read in one way only. Lists of tokens that sources can hold are
shown alike only if they are equal. Every scan gives such tokens, so two sources with the same line
have the same tokens, and they differ in nothing but blanks. -/
theorem text_unambiguous :
    (∀ first second : Listing, (∀ token ∈ first.tokens, token.WellFormed) →
      (∀ token ∈ second.tokens, token.WellFormed) → first.text = second.text →
        first.tokens = second.tokens) ∧
    (∀ (source : Source) (style : Style) (listing : Listing),
      (tokenize source style).result = .ok listing →
        ∀ token ∈ listing.tokens, token.WellFormed) ∧
    ∀ (source other : Source) (style otherStyle : Style) (listing otherListing : Listing),
      (tokenize source style).result = .ok listing →
      (tokenize other otherStyle).result = .ok otherListing → listing.text = otherListing.text →
        listing.tokens = otherListing.tokens ∧
          source.text.toList.filter (fun c => !Token.isBlank c) =
            other.text.toList.filter (fun c => !Token.isBlank c) := by
  refine ⟨?_, ?_, ?_⟩
  · intro first second formed formedToo same
    exact tokens_of_text_eq formed formedToo same
  · intro source style listing scanned
    exact wellFormed_of_tokenize scanned
  · intro source other style otherStyle listing otherListing scanned scannedToo same
    have tokens := tokens_of_text_eq (wellFormed_of_tokenize scanned)
      (wellFormed_of_tokenize scannedToo) same
    obtain ⟨layout, valid, read, covers⟩ := exists_layout scanned
    obtain ⟨otherLayout, validToo, readToo, coversToo⟩ := exists_layout scannedToo
    refine ⟨tokens, ?_⟩
    rw [← covers, ← coversToo, ← valid.flatMap_lexeme, ← validToo.flatMap_lexeme, read, readToo,
      tokens]

theorem text_unambiguous_spread_out :
    let tokens : List Token := [⟨.float, "3."⟩, ⟨.int, "12"⟩, .mark .plus]
    (tokenize ⟨"sum", "3. 12+"⟩ {}).result = .ok ⟨"sum", tokens⟩ ∧
      (tokenize ⟨"total", "3.\t12 +\n"⟩ {}).result = .ok ⟨"total", tokens⟩ ∧
      (∀ token ∈ tokens, token.WellFormed) ∧
      "3. 12+".toList.filter (fun c => !Token.isBlank c) =
        "3.\t12 +\n".toList.filter (fun c => !Token.isBlank c) := by
  intro tokens
  have sum : (tokenize ⟨"sum", "3. 12+"⟩ {}).result = .ok ⟨"sum", tokens⟩ :=
    tokenize_eq_ok_iff.mpr ⟨tokens, by decide, rfl⟩
  have total : (tokenize ⟨"total", "3.\t12 +\n"⟩ {}).result = .ok ⟨"total", tokens⟩ :=
    tokenize_eq_ok_iff.mpr ⟨tokens, by decide, rfl⟩
  obtain ⟨-, formed, alike⟩ := text_unambiguous
  exact ⟨sum, total, formed _ _ _ sum, (alike _ _ _ _ _ _ sum total rfl).2⟩

end Listing
end ArithLex
