import TableGateway.Prefer
import TableGateway.Proofs.Fallible
import TableGateway.Proofs.Numerals

-- The laws of wishes. A header is heard item by item from left to right, and of all that it says
-- on one matter the last word counts. A word that nobody knows is refused where it stands, even
-- if a later one would have taken its place.

namespace TableGateway

open Fallible

namespace Text

/-! ## Pieces and trimmed texts -/

/-- A cut between two texts cuts nothing else. -/
theorem piecesBy_append {cut : Char → Bool} {mark : Char} (hmark : cut mark = true)
    (s t : String) :
    piecesBy cut (s ++ String.singleton mark ++ t) = piecesBy cut s ++ piecesBy cut t := by
  have hlist : (s ++ String.singleton mark ++ t).toList = s.toList ++ mark :: t.toList := by simp
  simp only [piecesBy, split_eq_splitOnP]
  rw [hlist, List.splitOnP_append_cons _ _ hmark, List.map_append]

theorem dropWhile_append_mark {mark : Char} (hmark : isBlank mark = false) (cs rest : List Char) :
    (cs ++ mark :: rest).dropWhile isBlank = cs.dropWhile isBlank ++ mark :: rest := by
  induction cs with
  | nil => simp [hmark]
  | cons c cs ih =>
    by_cases hc : isBlank c = true
    · simp [hc, ih]
    · simp [hc]

/-- Blank characters in front make no difference to a trimmed text. -/
theorem trimChars_dropWhile (cs : List Char) : trimChars (cs.dropWhile isBlank) = trimChars cs := by
  induction cs with
  | nil => rfl
  | cons c cs ih =>
    by_cases hc : isBlank c = true
    · rw [List.dropWhile_cons_of_pos hc, ih]
      simp [trimChars, hc]
    · rw [List.dropWhile_cons_of_neg hc]

/-- Blank characters at the end make no difference to a trimmed text. -/
theorem trimChars_append_blanks {blanks : List Char} (blank : ∀ c ∈ blanks, isBlank c = true)
    (cs : List Char) : trimChars (cs ++ blanks) = trimChars cs := by
  induction cs with
  | nil =>
    have hnone : blanks.dropWhile isBlank = [] := List.dropWhile_eq_nil_iff.mpr blank
    simp [trimChars, hnone]
  | cons c cs ih =>
    by_cases hc : isBlank c = true
    · unfold trimChars at ih ⊢
      simpa [hc] using ih
    · have hback : ∀ d ∈ blanks.reverse, isBlank d = true := fun d hd =>
        blank d (List.mem_reverse.mp hd)
      unfold trimChars
      simp [hc, List.dropWhile_append_of_pos hback]

/-- Around a mark, trimming takes blank characters off at the two outer ends. -/
theorem trimChars_append_mark {mark : Char} (hmark : isBlank mark = false)
    (before after : List Char) :
    trimChars (before ++ mark :: after) =
      before.dropWhile isBlank ++ mark :: (after.reverse.dropWhile isBlank).reverse := by
  unfold trimChars
  rw [dropWhile_append_mark hmark, List.reverse_append, List.reverse_cons, List.append_assoc,
    List.singleton_append, dropWhile_append_mark hmark]
  simp

/-- A trimmed text is cut at the same mark, into parts that are the same once they are trimmed. -/
theorem cutAt_trim {mark : Char} (hmark : isBlank mark = false) (s : String) :
    (cutAt mark (trim s)).map (fun parts => (trim parts.1, trim parts.2)) =
      (cutAt mark s).map fun parts => (trim parts.1, trim parts.2) := by
  cases hcut : cutAt mark s with
  | none =>
    have hfree : mark ∉ s.toList := by simpa [cutAt, cutChars_eq_none_iff] using hcut
    have htrim : mark ∉ (trim s).toList := fun h => hfree (mem_of_mem_trim h)
    have hnone : cutAt mark (trim s) = none := by simpa [cutAt, cutChars_eq_none_iff] using htrim
    rw [hnone]
  | some parts =>
    obtain ⟨before, after⟩ := parts
    obtain ⟨hs, hfree⟩ := cutAt_eq_some.mp hcut
    have hfront : mark ∉ before.toList.dropWhile isBlank := fun h =>
      hfree ((List.dropWhile_sublist _).subset h)
    have htrim : (trim s).toList = before.toList.dropWhile isBlank ++
        mark :: (after.toList.reverse.dropWhile isBlank).reverse := by
      rw [toList_trim, hs, trimChars_append_mark hmark]
    have hfound : cutAt mark (trim s) = some (String.ofList (before.toList.dropWhile isBlank),
        String.ofList (after.toList.reverse.dropWhile isBlank).reverse) :=
      cutAt_eq_some.mpr ⟨by simpa using htrim, by simpa using hfront⟩
    have hback : trimChars (after.toList.reverse.dropWhile isBlank).reverse =
        trimChars after.toList := by
      have hsplit : after.toList = (after.toList.reverse.dropWhile isBlank).reverse ++
          (after.toList.reverse.takeWhile isBlank).reverse := by
        rw [← List.reverse_append, List.takeWhile_append_dropWhile, List.reverse_reverse]
      conv_rhs => rw [hsplit]
      rw [trimChars_append_blanks fun c hc => List.mem_takeWhile_imp (List.mem_reverse.mp hc)]
    rw [hfound]
    simp [trim, trimChars_dropWhile, hback]

end Text

/-! ## Matters -/

/-- What a client may have a wish on. -/
inductive Matter where
  | count
  | resolution
deriving Repr, DecidableEq

namespace Matter

/-- The key of a matter in a header. -/
def key : Matter → String
  | count => "count"
  | resolution => "resolution"

/-- The words for a matter. The empty one takes back what was wished. -/
def words : Matter → List String
  | count => ["", "exact"]
  | resolution => ["", "ignore-duplicates", "merge-duplicates"]

/-- What a client hears whose word is none of these. -/
def refusal (matter : Matter) (value : String) : Fault :=
  .badRequest ("unsupported " ++ matter.key ++ " preference: " ++ value)

end Matter

/-- The word for how rows are counted. -/
def CountMethod.word : CountMethod → String
  | none => ""
  | exact => "exact"

/-- The word for what happens to rows that are there already. -/
def Resolution.word : Resolution → String
  | none => ""
  | ignoreDuplicates => "ignore-duplicates"
  | mergeDuplicates => "merge-duplicates"

theorem Text.lower_eq_empty {s : String} : lower s = "" ↔ s = "" := by
  constructor
  · intro h
    have hlist := congrArg String.toList h
    simp only [lower, String.toList_ofList] at hlist
    exact String.toList_inj.mp (List.map_eq_nil_iff.mp hlist)
  · rintro rfl
    rfl

namespace CountMethod

theorem parse_eq (value : String) : parse value =
    if Text.lower value = "" then .ok .none
    else if Text.lower value = "exact" then .ok .exact
    else .error (Matter.count.refusal value) := by
  have hexact : Text.lower "exact" = "exact" := by decide
  unfold parse Text.sameLetters
  simp only [Text.lower_eq_empty, hexact, beq_iff_eq]
  rfl

/-- A word is taken in any letter case. -/
theorem parse_eq_ok {value : String} {method : CountMethod} :
    parse value = .ok method ↔ Text.lower value = method.word := by
  rw [parse_eq]
  split
  · cases method <;> simp [word, *]
  · split
    · cases method <;> simp [word, *]
    · cases method <;> simp [word, *]

theorem parse_eq_error {value : String} {fault : Fault} : parse value = .error fault ↔
    Text.lower value ∉ Matter.count.words ∧ fault = Matter.count.refusal value := by
  rw [parse_eq]
  split
  · simp [Matter.words, *]
  · split
    · simp [Matter.words, *]
    · simpa [Matter.words, *] using eq_comm

end CountMethod

namespace Resolution

theorem parse_eq (value : String) : parse value =
    if Text.lower value = "" then .ok .none
    else if Text.lower value = "ignore-duplicates" then .ok .ignoreDuplicates
    else if Text.lower value = "merge-duplicates" then .ok .mergeDuplicates
    else .error (Matter.resolution.refusal value) := by
  have hignore : Text.lower "ignore-duplicates" = "ignore-duplicates" := by decide
  have hmerge : Text.lower "merge-duplicates" = "merge-duplicates" := by decide
  unfold parse Text.sameLetters
  simp only [Text.lower_eq_empty, hignore, hmerge, beq_iff_eq]
  rfl

theorem parse_eq_ok {value : String} {resolution : Resolution} :
    parse value = .ok resolution ↔ Text.lower value = resolution.word := by
  rw [parse_eq]
  split
  · cases resolution <;> simp [word, *]
  · split
    · cases resolution <;> simp [word, *]
    · split
      · cases resolution <;> simp [word, *]
      · cases resolution <;> simp [word, *]

theorem parse_eq_error {value : String} {fault : Fault} : parse value = .error fault ↔
    Text.lower value ∉ Matter.resolution.words ∧ fault = Matter.resolution.refusal value := by
  rw [parse_eq]
  split
  · simp [Matter.words, *]
  · split
    · simp [Matter.words, *]
    · split
      · simp [Matter.words, *]
      · simpa [Matter.words, *] using eq_comm

end Resolution

namespace Preference

/-! ## What a header says -/

/-- The word for what is wished on a matter. -/
def word (preference : Preference) : Matter → String
  | .count => preference.count.word
  | .resolution => preference.resolution.word

/-- Wishes with one word on each matter are the same. -/
theorem eq_of_word {preference other : Preference}
    (h : ∀ matter, preference.word matter = other.word matter) : preference = other := by
  obtain ⟨count, resolution⟩ := preference
  obtain ⟨count', resolution'⟩ := other
  obtain rfl : count = count' := by
    have hword : count.word = count'.word := h .count
    cases count <;> cases count' <;> simp [CountMethod.word] at hword ⊢
  obtain rfl : resolution = resolution' := by
    have hword : resolution.word = resolution'.word := h .resolution
    cases resolution <;> cases resolution' <;> simp [Resolution.word] at hword ⊢
  rfl

/-- The matter whose key a text is, in any letter case. -/
def matter? (key : String) : Option Matter :=
  [Matter.count, Matter.resolution].find? fun matter => Text.lower key == matter.key

/-- What an item says: the text before its first equals sign is the key of a matter, and the text
behind it is the word for it, both without the blank characters around them. -/
def said? (item : String) : Option (Matter × String) :=
  (Text.cutAt '=' item).bind fun parts =>
    (matter? (Text.trim parts.1)).map fun matter => (matter, Text.trim parts.2)

/-- All that a header says, from left to right. -/
def said (header : String) : List (Matter × String) :=
  (Text.piecesBy isSeparator header).filterMap said?

/-- A word that is known for its matter, in any letter case. -/
def IsKnown (saying : Matter × String) : Prop :=
  Text.lower saying.2 ∈ saying.1.words

/-- All words on one matter, from left to right. -/
def wordsOn (matter : Matter) (sayings : List (Matter × String)) : List String :=
  (sayings.filter fun saying => saying.1 == matter).map Prod.snd

/-- Items that say nothing may be left out. -/
theorem said_eq_filter (header : String) :
    said header =
      ((Text.piecesBy isSeparator header).filter fun item => (said? item).isSome).filterMap
        said? := by
  unfold said
  rw [List.filterMap_filter]
  refine List.filterMap_congr fun item _ => ?_
  cases said? item <;> rfl

/-- Takes one word. -/
def heed (preference : Preference) : Matter × String → Except Fault Preference
  | (.count, value) => (CountMethod.parse value).map fun count => { preference with count }
  | (.resolution, value) =>
    (Resolution.parse value).map fun resolution => { preference with resolution }

/-- An item is taken as what it says. -/
theorem take_eq (preference : Preference) (item : String) :
    preference.take item =
      match said? item with
      | some saying => preference.heed saying
      | none => .ok preference := by
  have hcount : Text.lower "count" = "count" := by decide
  have hresolution : Text.lower "resolution" = "resolution" := by decide
  have hparts := Text.cutAt_trim (show Text.isBlank '=' = false by decide) item
  unfold take said? matter?
  cases htrimmed : Text.cutAt '=' (Text.trim item) with
  | none =>
    have hnone : Text.cutAt '=' item = none := by simpa [htrimmed] using hparts.symm
    rw [hnone]
    rfl
  | some trimmed =>
    obtain ⟨key, value⟩ := trimmed
    rw [htrimmed] at hparts
    obtain ⟨⟨key', value'⟩, hcut, heq⟩ := Option.map_eq_some_iff.mp hparts.symm
    obtain ⟨hkey, hvalue⟩ := Prod.mk.inj heq
    simp only at hkey hvalue
    simp only [hcut, Option.bind_some, hkey, hvalue, Text.sameLetters, hcount, hresolution,
      List.find?_cons, List.find?_nil, Matter.key]
    by_cases isCount : Text.lower (Text.trim key) = "count"
    · simp [isCount, heed]
    · by_cases isResolution : Text.lower (Text.trim key) = "resolution"
      · simp [isResolution, heed]
      · simp [beq_eq_false_iff_ne.mpr isCount, beq_eq_false_iff_ne.mpr isResolution]

/-! ## One word more, and all of them -/

theorem heed_eq_ok {preference after : Preference} {saying : Matter × String} :
    preference.heed saying = .ok after ↔ IsKnown saying ∧ ∀ matter, after.word matter =
      if saying.1 = matter then Text.lower saying.2 else preference.word matter := by
  obtain ⟨matter, value⟩ := saying
  unfold IsKnown
  cases matter with
  | count =>
    simp only [heed, map_eq_ok, CountMethod.parse_eq_ok]
    constructor
    · rintro ⟨count, hword, rfl⟩
      refine ⟨by cases count <;> simp [hword, CountMethod.word, Matter.words], fun matter => ?_⟩
      cases matter <;> simp [word, hword]
    · rintro ⟨_, hafter⟩
      refine ⟨after.count, (hafter .count).symm, eq_of_word fun matter => ?_⟩
      cases matter with
      | count => rfl
      | resolution => exact (hafter .resolution).symm
  | resolution =>
    simp only [heed, map_eq_ok, Resolution.parse_eq_ok]
    constructor
    · rintro ⟨resolution, hword, rfl⟩
      refine ⟨by cases resolution <;> simp [hword, Resolution.word, Matter.words],
        fun matter => ?_⟩
      cases matter <;> simp [word, hword]
    · rintro ⟨_, hafter⟩
      refine ⟨after.resolution, (hafter .resolution).symm, eq_of_word fun matter => ?_⟩
      cases matter with
      | count => exact (hafter .count).symm
      | resolution => rfl

theorem heed_eq_error {preference : Preference} {saying : Matter × String} {fault : Fault} :
    preference.heed saying = .error fault ↔
      ¬ IsKnown saying ∧ fault = saying.1.refusal saying.2 := by
  obtain ⟨matter, value⟩ := saying
  cases matter with
  | count => exact map_eq_error.trans CountMethod.parse_eq_error
  | resolution => exact map_eq_error.trans Resolution.parse_eq_error

theorem exists_heed {saying : Matter × String} (h : IsKnown saying) (preference : Preference) :
    ∃ after, preference.heed saying = .ok after := by
  cases hheed : preference.heed saying with
  | ok after => exact ⟨after, rfl⟩
  | error fault => exact absurd h (heed_eq_error.mp hheed).1

theorem wordsOn_cons (matter : Matter) (saying : Matter × String)
    (sayings : List (Matter × String)) :
    wordsOn matter (saying :: sayings) =
      if saying.1 = matter then saying.2 :: wordsOn matter sayings else wordsOn matter sayings := by
  unfold wordsOn
  by_cases h : saying.1 = matter
  · simp [h]
  · simp [h]

/-- Words are taken if all of them are known, and the last one on a matter stays. -/
theorem foldlM_heed_eq_ok {sayings : List (Matter × String)} {preference after : Preference} :
    sayings.foldlM heed preference = .ok after ↔ (∀ saying ∈ sayings, IsKnown saying) ∧
      ∀ matter, after.word matter =
        ((wordsOn matter sayings).getLast?.map Text.lower).getD (preference.word matter) := by
  induction sayings generalizing preference with
  | nil =>
    rw [List.foldlM_nil, pure_eq_ok]
    constructor
    · rintro rfl
      simp [wordsOn]
    · rintro ⟨_, hwords⟩
      exact eq_of_word hwords
  | cons saying sayings ih =>
    have hlast (next : Preference) (hnext : preference.heed saying = .ok next) (matter : Matter) :
        ((wordsOn matter sayings).getLast?.map Text.lower).getD (next.word matter) =
          ((wordsOn matter (saying :: sayings)).getLast?.map Text.lower).getD
            (preference.word matter) := by
      rw [(heed_eq_ok.mp hnext).2, wordsOn_cons]
      by_cases h : saying.1 = matter
      · rw [if_pos h, if_pos h, List.getLast?_cons]
        cases (wordsOn matter sayings).getLast? <;> rfl
      · rw [if_neg h, if_neg h]
    rw [List.foldlM_cons, bind_eq_ok, List.forall_mem_cons]
    constructor
    · rintro ⟨next, hnext, hrest⟩
      obtain ⟨hknown, hwords⟩ := ih.mp hrest
      exact ⟨⟨(heed_eq_ok.mp hnext).1, hknown⟩, fun matter =>
        (hwords matter).trans (hlast next hnext matter)⟩
    · rintro ⟨⟨hfirst, hknown⟩, hwords⟩
      obtain ⟨next, hnext⟩ := exists_heed hfirst preference
      exact ⟨next, hnext, ih.mpr ⟨hknown, fun matter =>
        (hwords matter).trans (hlast next hnext matter).symm⟩⟩

/-- The first word that is not known is refused, whatever comes after it. -/
theorem foldlM_heed_eq_error {sayings : List (Matter × String)} {preference : Preference}
    {fault : Fault} :
    sayings.foldlM heed preference = .error fault ↔ ∃ before matter value after,
      sayings = before ++ (matter, value) :: after ∧ (∀ saying ∈ before, IsKnown saying) ∧
      ¬ IsKnown (matter, value) ∧ fault = matter.refusal value := by
  induction sayings generalizing preference with
  | nil => simp [pure_ne_error]
  | cons saying sayings ih =>
    rw [List.foldlM_cons, bind_eq_error]
    constructor
    · rintro (hfirst | ⟨next, hnext, hrest⟩)
      · obtain ⟨hunknown, rfl⟩ := heed_eq_error.mp hfirst
        exact ⟨[], saying.1, saying.2, sayings, rfl, by simp, hunknown, rfl⟩
      · obtain ⟨before, matter, value, after, rfl, hknown, hunknown, rfl⟩ := ih.mp hrest
        refine ⟨saying :: before, matter, value, after, rfl, ?_, hunknown, rfl⟩
        exact List.forall_mem_cons.mpr ⟨(heed_eq_ok.mp hnext).1, hknown⟩
    · rintro ⟨before, matter, value, after, heq, hknown, hunknown, rfl⟩
      cases before with
      | nil =>
        cases heq
        exact .inl (heed_eq_error.mpr ⟨hunknown, rfl⟩)
      | cons first before =>
        cases heq
        obtain ⟨hfirst, hbefore⟩ := List.forall_mem_cons.mp hknown
        obtain ⟨next, hnext⟩ := exists_heed hfirst preference
        exact .inr ⟨next, hnext, ih.mpr ⟨before, matter, value, after, rfl, hbefore, hunknown, rfl⟩⟩

/-! ## Whole headers -/

/-- A header is taken word by word. -/
theorem continued_eq (preference : Preference) (header : String) :
    preference.continued header = (said header).foldlM heed preference := by
  unfold continued said
  rw [List.foldlM_filterMap]
  refine congrArg (fun step => (Text.piecesBy isSeparator header).foldlM step preference) ?_
  funext preference item
  rw [take_eq]
  cases said? item <;> rfl

theorem parse_eq (header : String) : parse header = (said header).foldlM heed {} :=
  continued_eq {} header

theorem word_default (matter : Matter) : word {} matter = "" := by
  cases matter <;> rfl

theorem parse_eq_ok {header : String} {preference : Preference} :
    parse header = .ok preference ↔ (∀ saying ∈ said header, IsKnown saying) ∧
      ∀ matter, preference.word matter =
        ((wordsOn matter (said header)).getLast?.map Text.lower).getD "" := by
  simp only [parse_eq, foldlM_heed_eq_ok, word_default]

/-- Of two words side by side on two matters either may come first. -/
theorem wordsOn_swap {matter matter' : Matter} (apart : matter ≠ matter') (value value' : String)
    (before after : List (Matter × String)) (other : Matter) :
    wordsOn other (before ++ (matter', value') :: (matter, value) :: after) =
      wordsOn other (before ++ (matter, value) :: (matter', value') :: after) := by
  unfold wordsOn
  rw [List.filter_append, List.filter_append]
  by_cases hfirst : matter = other
  · have hsecond : ¬ matter' = other := fun h => apart (hfirst.trans h.symm)
    simp [hfirst, hsecond]
  · simp [List.filter_cons, hfirst]

/-- Of all that a header says on one matter the last word counts. A header is refused exactly if
it holds a word that is not known for its matter, with what is told of the first such word, and
otherwise each wish is the last word on it. So a header goes on where another one ends, items that
say nothing may come and go, and words on two matters may change places. -/
theorem the_last_word_counts (header : String) :
    (∀ fault, parse header = .error fault ↔ ∃ before matter value after,
      said header = before ++ (matter, value) :: after ∧ (∀ saying ∈ before, IsKnown saying) ∧
      ¬ IsKnown (matter, value) ∧ fault = matter.refusal value) ∧
    (∀ preference, parse header = .ok preference ↔
      (∀ saying ∈ said header, IsKnown saying) ∧ ∀ matter, preference.word matter =
        ((wordsOn matter (said header)).getLast?.map Text.lower).getD "") ∧
    (∀ separator more, isSeparator separator = true →
      parse (header ++ String.singleton separator ++ more) =
        parse header >>= fun preference => preference.continued more) ∧
    (∀ other, (Text.piecesBy isSeparator other).filter (fun item => (said? item).isSome) =
        (Text.piecesBy isSeparator header).filter (fun item => (said? item).isSome) →
      parse other = parse header) ∧
    ∀ other before first second after matter matter' value value',
      Text.piecesBy isSeparator header = before ++ first :: second :: after →
      Text.piecesBy isSeparator other = before ++ second :: first :: after →
      said? first = some (matter, value) → said? second = some (matter', value') →
      matter ≠ matter' → ∀ preference, parse header = .ok preference →
        parse other = .ok preference := by
  refine ⟨fun fault => ?_, fun preference => parse_eq_ok, ?_, ?_, ?_⟩
  · rw [parse_eq]
    exact foldlM_heed_eq_error
  · intro separator more hseparator
    unfold parse continued
    rw [Text.piecesBy_append hseparator, List.foldlM_append]
  · intro other hsame
    rw [parse_eq, parse_eq, said_eq_filter, hsame, ← said_eq_filter]
  · intro other before first second after matter matter' value value' hitems hswapped hfirst
      hsecond apart preference hparse
    have hsaid : said header = before.filterMap said? ++ (matter, value) :: (matter', value') ::
        after.filterMap said? := by
      simp [said, hitems, hfirst, hsecond]
    have hother : said other = before.filterMap said? ++ (matter', value') :: (matter, value) ::
        after.filterMap said? := by
      simp [said, hswapped, hfirst, hsecond]
    obtain ⟨hknown, hwords⟩ := parse_eq_ok.mp hparse
    rw [hsaid] at hknown hwords
    refine parse_eq_ok.mpr ⟨fun saying hmem => hknown saying ?_, fun one => ?_⟩
    · rw [hother] at hmem
      simp only [List.mem_append, List.mem_cons] at hmem ⊢
      tauto
    · rw [hother, wordsOn_swap apart]
      exact hwords one

/-- An empty word takes back the one before it, in any letter case and among blanks. -/
example : parse "count=exact, Count = " = .ok ⟨.none, .none⟩ := by
  decide +kernel

end Preference

end TableGateway
