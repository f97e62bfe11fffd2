import TableGateway.Proofs.Cutting
import TableGateway.Proofs.Statements

-- The laws of orders. An order has one item for each of its pieces that is not empty, and the text
-- of an item has the parts of its piece in their places. Only the words for nulls are written out,
-- and a piece with too many points is told back.

namespace TableGateway

open Fallible

namespace OrderItem

/-! ## Pieces and what is shown of them -/

/-- The words for a place for nulls, each with what a statement has for it. -/
def nullsWords : List (String × String) :=
  [("nullsfirst", "nulls first"), ("nullslast", "nulls last")]

/-- What a statement has for a word after a column: words for nulls are written out, and every
other word stands as it is. -/
inductive IsSpokenAs : String → String → Prop where
  | nulls {word text : String} (listed : (word, text) ∈ nullsWords) : IsSpokenAs word text
  | verbatim {word : String} (unlisted : ∀ text, (word, text) ∉ nullsWords) : IsSpokenAs word word

/-- A piece is a column and words after it with points between them. It is shown as the column
and what its words are spoken as, with single blanks between them. -/
def IsShownAs (piece text : String) : Prop :=
  ∃ column words spoken, Text.IsCutInto '.' piece (column :: words) ∧
    List.Forall₂ IsSpokenAs words spoken ∧ text = Text.joined " " (column :: spoken)

/-- A piece that makes an item has at most two points. -/
def IsItem (piece : String) : Prop :=
  piece.toList.count '.' ≤ 2

theorem mem_nullsWords {word text : String} :
    (word, text) ∈ nullsWords ↔ nullsWords? word = some text := by
  unfold nullsWords nullsWords?
  split
  · simp [*, eq_comm]
  · split
    · simp [*, eq_comm]
    · simp [*]

theorem isSpokenAs_iff {word text : String} : IsSpokenAs word text ↔ spoken word = text := by
  unfold spoken
  constructor
  · intro h
    cases h with
    | nulls listed => rw [mem_nullsWords.mp listed, Option.getD_some]
    | verbatim unlisted =>
      have hnone : nullsWords? word = none :=
        Option.eq_none_iff_forall_ne_some.mpr fun text => mt mem_nullsWords.mpr (unlisted text)
      rw [hnone, Option.getD_none]
  · rintro rfl
    cases hword : nullsWords? word with
    | none =>
      refine .verbatim fun text hmem => ?_
      cases hword.symm.trans (mem_nullsWords.mp hmem)
    | some text => exact .nulls (mem_nullsWords.mpr hword)

theorem isShownAs_iff {piece text : String} : IsShownAs piece text ↔
    ∃ column words, Text.pieces '.' piece = column :: words ∧
      text = Text.joined " " (column :: words.map spoken) := by
  have hspoken (words texts : List String) :
      List.Forall₂ IsSpokenAs words texts ↔ texts = words.map spoken := by
    rw [eq_comm, ← List.forall₂_eq_eq_eq, List.forall₂_map_left_iff]
    exact ⟨.imp fun _ _ => isSpokenAs_iff.mp, .imp fun _ _ => isSpokenAs_iff.mpr⟩
  unfold IsShownAs
  simp only [Text.isCutInto_iff, hspoken]
  constructor
  · rintro ⟨column, words, _, hpieces, rfl, htext⟩
    exact ⟨column, words, hpieces, htext⟩
  · rintro ⟨column, words, hpieces, htext⟩
    exact ⟨column, words, _, hpieces, rfl, htext⟩

/-- A character of the text stands in the piece, or it comes with the words for nulls. -/
theorem not_mem_of_isShownAs {piece text : String} {c : Char} (h : IsShownAs piece text)
    (free : c ∉ piece.toList) (strange : c ∉ " ".toList)
    (unspoken : ∀ pair ∈ nullsWords, c ∉ pair.2.toList) : c ∉ text.toList := by
  obtain ⟨column, words, hpieces, rfl⟩ := isShownAs_iff.mp h
  have hpart : ∀ part ∈ column :: words, c ∉ part.toList := fun part hpart hc =>
    free (Text.mem_of_mem_pieces (hpieces ▸ hpart) hc)
  obtain ⟨hcolumn, hwords⟩ := List.forall_mem_cons.mp hpart
  refine Text.not_mem_joined strange (List.forall_mem_cons.mpr ⟨hcolumn, fun text htext => ?_⟩)
  obtain ⟨word, hword, rfl⟩ := List.mem_map.mp htext
  have hspoken : IsSpokenAs word (spoken word) := isSpokenAs_iff.mpr rfl
  generalize spoken word = text at hspoken
  cases hspoken with
  | nulls listed => exact unspoken _ listed
  | verbatim _ => exact hwords word hword

/-! ## One item -/

/-- The text of an item has the parts of its piece in their places. -/
theorem isShownAs_of_parse {piece : String} {item : OrderItem} (h : parse piece = .ok item) :
    IsShownAs piece item.text := by
  rw [isShownAs_iff]
  unfold parse at h
  split at h
  · rename_i column hpieces
    cases h
    exact ⟨column, [], hpieces, rfl⟩
  · rename_i column word hpieces
    refine ⟨column, [word], hpieces, ?_⟩
    split at h
    · rename_i nulls hnulls
      cases h
      simp [text, spoken, hnulls]
    · rename_i hplain
      cases h
      simp [text, spoken, hplain]
  · rename_i column direction nulls hpieces
    cases h
    exact ⟨column, [direction, nulls], hpieces, rfl⟩
  · cases h

theorem isItem_iff {piece : String} : IsItem piece ↔ (Text.pieces '.' piece).length ≤ 3 := by
  rw [Text.length_pieces]
  exact Nat.succ_le_succ_iff.symm

/-- A piece that makes no item is told back. -/
theorem parse_eq_error {piece : String} {fault : Fault} :
    parse piece = .error fault ↔ ¬ IsItem piece ∧ fault = .invalidOrder piece := by
  have hcount := Text.length_pieces '.' piece
  rw [isItem_iff, parse]
  -- One case for each number of parts: none, which no piece has, one, two, three, and more.
  rcases hpieces : Text.pieces '.' piece with
    _ | ⟨column, _ | ⟨first, _ | ⟨second, _ | ⟨third, rest⟩⟩⟩⟩
  · rw [hpieces] at hcount
    cases hcount
  · simp
  · simp only
    split <;> simp
  · simp
  · simp [eq_comm]

/-- A piece makes an item exactly when it has at most two points. -/
theorem parse_succeeds {piece : String} : (∃ item, parse piece = .ok item) ↔ IsItem piece := by
  constructor
  · rintro ⟨item, h⟩
    by_contra hnone
    cases h.symm.trans (parse_eq_error.mpr ⟨hnone, rfl⟩)
  · intro hitem
    cases h : parse piece with
    | ok item => exact ⟨item, rfl⟩
    | error fault => exact absurd hitem (parse_eq_error.mp h).1

end OrderItem

/-! ## Whole orders -/

/-- The pieces of an order: what stands between its commas, where something does. -/
def HasPieces (order : String) (pieces : List String) : Prop :=
  ∃ parts, Text.IsCutInto ',' order parts ∧ pieces = parts.filter (· ≠ "")

theorem hasPieces_iff {order : String} {pieces : List String} :
    HasPieces order pieces ↔ pieces = (Text.pieces ',' order).filter (· ≠ "") := by
  unfold HasPieces
  simp only [Text.isCutInto_iff]
  exact ⟨fun ⟨_, hparts, h⟩ => hparts ▸ h, fun h => ⟨_, rfl, h⟩⟩

section Pieces

variable {order : String} {pieces : List String} (has : HasPieces order pieces)

include has

theorem parseOrder_eq : parseOrder order = pieces.mapM OrderItem.parse := by
  rw [parseOrder, hasPieces_iff.mp has]

/-- What is shown of the pieces of an order holds no comma, as they hold none. -/
theorem comma_not_mem_texts {texts : List String}
    (shown : List.Forall₂ OrderItem.IsShownAs pieces texts) :
    ∀ text ∈ texts, ',' ∉ text.toList := by
  obtain ⟨parts, hcut, rfl⟩ := has
  intro text htext
  obtain ⟨piece, hpiece, hshown⟩ := exists_of_mem_forall₂ shown htext
  have hfree : ',' ∉ piece.toList := hcut.unmarked piece (List.mem_filter.mp hpiece).1
  exact OrderItem.not_mem_of_isShownAs hshown hfree (by decide) (by decide)

theorem parseOrder_succeeds :
    (∃ items, parseOrder order = .ok items) ↔ ∀ piece ∈ pieces, OrderItem.IsItem piece := by
  rw [parseOrder_eq has, mapM_succeeds]
  simp only [OrderItem.parse_succeeds]

/-- The first piece that makes no item is told back. -/
theorem parseOrder_eq_error {fault : Fault} :
    parseOrder order = .error fault ↔ ∃ before piece after, pieces = before ++ piece :: after ∧
      (∀ other ∈ before, OrderItem.IsItem other) ∧ ¬ OrderItem.IsItem piece ∧
      fault = .invalidOrder piece := by
  rw [parseOrder_eq has, mapM_eq_error]
  simp only [OrderItem.parse_succeeds, OrderItem.parse_eq_error]

theorem areShown_of_parseOrder {items : List OrderItem} (h : parseOrder order = .ok items) :
    List.Forall₂ OrderItem.IsShownAs pieces (items.map OrderItem.text) := by
  rw [parseOrder_eq has, mapM_eq_ok] at h
  rw [List.forall₂_map_right_iff]
  exact h.imp fun _ _ => OrderItem.isShownAs_of_parse

end Pieces

/-! ## The order in a statement -/

/-- A part of a statement orders by texts: it has them one after another, with commas between them
only. -/
structure OrdersBy (part : String) (texts : List String) : Prop where
  some_text : texts ≠ []
  free : ∀ text ∈ texts, ',' ∉ text.toList
  whole : part = " order by " ++ Text.joined ", " texts

/-- A part of a statement orders by one list of texts at most. -/
theorem OrdersBy.unique {part : String} {texts texts' : List String} (h : OrdersBy part texts)
    (h' : OrdersBy part texts') : texts = texts' := by
  have hjoined : Text.joined ", " texts = Text.joined ", " texts' :=
    (String.append_right_inj _).mp (h.whole.symm.trans h'.whole)
  exact Text.joined_inj hjoined h.some_text h'.some_text h.free h'.free

theorem not_ordersBy_empty (texts : List String) : ¬ OrdersBy "" texts := by
  intro h
  have hlist := congrArg String.toList h.whole
  simp at hlist

namespace Request

/-- The order of a result is that of the first order of the request. No order is as an empty one. -/
theorem orderItems_eq_parseOrder (request : Request) :
    request.orderItems = parseOrder ((request.params.get? orderKey).getD "") := by
  have hempty : parseOrder "" = .ok [] := by rfl
  unfold orderItems Params.given?
  cases request.params.get? orderKey with
  | none => exact hempty.symm
  | some order =>
    by_cases horder : order = ""
    · subst horder
      exact hempty.symm
    · simp [Option.filter, horder]

/-- The order in a statement orders by the texts of its items, if it has any. -/
theorem ordersBy_orderText {items : List OrderItem} {texts : List String}
    (free : ∀ text ∈ items.map OrderItem.text, ',' ∉ text.toList) :
    OrdersBy (orderText items) texts ↔ items ≠ [] ∧ texts = items.map OrderItem.text := by
  by_cases hitems : items = []
  · subst hitems
    exact ⟨fun h => absurd h (not_ordersBy_empty texts), fun h => absurd rfl h.1⟩
  · have horders : OrdersBy (orderText items) (items.map OrderItem.text) := by
      refine ⟨mt List.map_eq_nil_iff.mp hitems, free, ?_⟩
      rw [orderText, List.isEmpty_eq_false_iff.mpr hitems]
      rfl
    constructor
    · exact fun h => ⟨hitems, h.unique horders⟩
    · rintro ⟨_, rfl⟩
      exact horders

/-! ## The law -/

/-- Every item of an order keeps its place. An order makes sense exactly when each of its pieces
has at most two points, and otherwise its first piece with more of them is told back. There is one
item for each piece, and its text has the parts of the piece in their places, with the words for
nulls written out. So a select orders by texts exactly when the first order of the request, which
is empty if there is none, has a piece, and then it has one text for each of them. -/
theorem every_item_of_an_order_keeps_its_place (order : String) : ∃ pieces,
    HasPieces order pieces ∧
    ((∃ items, parseOrder order = .ok items) ↔ ∀ piece ∈ pieces, OrderItem.IsItem piece) ∧
    (∀ fault, parseOrder order = .error fault ↔ ∃ before piece after,
      pieces = before ++ piece :: after ∧ (∀ other ∈ before, OrderItem.IsItem other) ∧
      ¬ OrderItem.IsItem piece ∧ fault = .invalidOrder piece) ∧
    (∀ items, parseOrder order = .ok items →
      List.Forall₂ OrderItem.IsShownAs pieces (items.map OrderItem.text)) ∧
    ∀ (request : Request) (known : Option (List String)) (table : String),
      (request.params.get? orderKey).getD "" = order →
      ((∃ statement, request.compile known .select table = .ok statement) ↔
        (∃ clauses, request.clauses = .ok clauses) ∧ (∃ page, Page.ofRequest request = .ok page) ∧
        ∀ piece ∈ pieces, OrderItem.IsItem piece) ∧
      ∀ statement, request.compile known .select table = .ok statement → ∃ clauses page part,
        request.clauses = .ok clauses ∧ Page.ofRequest request = .ok page ∧
        statement = ⟨"select " ++ Text.joined ", " request.resultColumns ++ " from " ++ table ++
          Statement.whereText clauses ++ part ++ pageText page, Statement.whereValues clauses⟩ ∧
        ((∃ texts, OrdersBy part texts) ↔ pieces ≠ []) ∧ (pieces = [] → part = "") ∧
        ∀ texts, OrdersBy part texts → List.Forall₂ OrderItem.IsShownAs pieces texts := by
  obtain ⟨pieces, has⟩ : ∃ pieces, HasPieces order pieces := ⟨_, hasPieces_iff.mpr rfl⟩
  refine ⟨pieces, has, parseOrder_succeeds has, fun fault => parseOrder_eq_error has,
    fun items => areShown_of_parseOrder has, fun request known table horder => ?_⟩
  have hparse : request.orderItems = parseOrder order := by
    rw [orderItems_eq_parseOrder, horder]
  refine ⟨⟨?_, ?_⟩, fun statement h => ?_⟩
  · rintro ⟨statement, h⟩
    obtain ⟨clauses, items, page, hclauses, hitems, hpage, _⟩ := select_eq_ok.mp h
    exact ⟨⟨clauses, hclauses⟩, ⟨page, hpage⟩,
      (parseOrder_succeeds has).mp ⟨items, hparse.symm.trans hitems⟩⟩
  · rintro ⟨⟨clauses, hclauses⟩, ⟨page, hpage⟩, hpieces⟩
    obtain ⟨items, hitems⟩ := (parseOrder_succeeds has).mpr hpieces
    exact ⟨_, select_eq_ok.mpr
      ⟨clauses, items, page, hclauses, hparse.trans hitems, hpage, rfl⟩⟩
  · obtain ⟨clauses, items, page, hclauses, hitems, hpage, rfl⟩ := select_eq_ok.mp h
    have hshown := areShown_of_parseOrder has (hparse.symm.trans hitems)
    have hempty : items = [] ↔ pieces = [] := by
      rw [← List.length_eq_zero_iff, ← List.length_eq_zero_iff, hshown.length_eq, List.length_map]
    have horders (texts : List String) :
        OrdersBy (orderText items) texts ↔ items ≠ [] ∧ texts = items.map OrderItem.text :=
      ordersBy_orderText (comma_not_mem_texts has hshown)
    refine ⟨clauses, page, orderText items, hclauses, hpage, rfl, ?_, fun hnone => ?_, ?_⟩
    · rw [Ne, ← hempty]
      exact ⟨fun ⟨texts, htexts⟩ => ((horders texts).mp htexts).1,
        fun hitems => ⟨_, (horders _).mpr ⟨hitems, rfl⟩⟩⟩
    · rw [hempty.mpr hnone]
      rfl
    · intro texts htexts
      rw [((horders texts).mp htexts).2]
      exact hshown

/-- Words for nulls are written out behind a column wherever they stand, and an item keeps its
empty parts. -/
example : (parseOrder ",a.nullsfirst.asc,,nullslast,b..").map (List.map OrderItem.text) =
    .ok ["a nulls first asc", "nullslast", "b  "] := by
  decide +kernel

end Request

end TableGateway
