import TableGateway.MediaType
import TableGateway.Payload
import TableGateway.Proofs.Cutting

-- The laws of media types. A header offers JSON where one of the texts between its commas is the
-- name of JSON, in any letter case, and perhaps parameters after a semicolon.

namespace TableGateway

namespace MediaType

/-- The text of the media type of JSON: its name in any letter case, and nothing or parameters
after a semicolon. -/
def IsJsonText (text : String) : Prop :=
  ∃ name rest, text = name ++ rest ∧ Text.sameLetters name "application/json" = true ∧
    (rest = "" ∨ ∃ parameters, rest = ";" ++ parameters ∧
      parametersEnd (parameters.toList.length + 1) parameters.toList = true)

/-! ## Letter case -/

/-- A character without a letter case is its own lower case, and the others are letters. -/
theorem toLower_cases (c : Char) : c.toLower = c ∨ c.isAlphanum = true ∧ c.toLower ≠ '/' := by
  by_cases h : 65 ≤ c.toNat ∧ c.toNat ≤ 90
  · right
    have hletters : ∀ n < 26, (Char.ofNat (65 + n)).isAlphanum = true ∧
        (Char.ofNat (65 + n)).toLower ≠ '/' := by decide
    have hletter := hletters (c.toNat - 65) (by omega)
    rwa [show 65 + (c.toNat - 65) = c.toNat by omega, Char.ofNat_toNat] at hletter
  · left
    refine dif_neg fun hupper => h ?_
    have hlow : 65 ≤ c.toNat := UInt32.le_iff_toNat_le.mp hupper.1
    have hhigh : c.toNat ≤ 90 := UInt32.le_iff_toNat_le.mp hupper.2
    exact ⟨hlow, hhigh⟩

theorem isTokenChar_of_toLower {c : Char} (h : isTokenChar c.toLower = true) :
    isTokenChar c = true := by
  rcases toLower_cases c with hsame | ⟨halnum, _⟩
  · rwa [hsame] at h
  · rw [isTokenChar, halnum, Bool.true_or]

theorem eq_slash_of_toLower {c : Char} (h : c.toLower = '/') : c = '/' := by
  rcases toLower_cases c with hsame | ⟨_, hne⟩
  · rw [← hsame, h]
  · exact absurd h hne

/-- The name of JSON is a type, a slash and a subtype. -/
theorem parts_of_name {name : String} (h : Text.sameLetters name "application/json" = true) :
    ∃ type subtype, name.toList = type ++ '/' :: subtype ∧
      type.map Char.toLower = "application".toList ∧ subtype.map Char.toLower = "json".toList := by
  have hchars : name.toList.map Char.toLower = "application".toList ++ '/' :: "json".toList := by
    have hlower := congrArg String.toList (beq_iff_eq.mp h)
    rw [Text.lower, String.toList_ofList] at hlower
    exact hlower.trans (by decide)
  obtain ⟨type, rest, hname, htype, hrest⟩ := List.map_eq_append_iff.mp hchars
  obtain ⟨slash, subtype, rfl, hslash, hsubtype⟩ := List.map_eq_cons_iff.mp hrest
  obtain rfl := eq_slash_of_toLower hslash
  exact ⟨type, subtype, hname, htype, hsubtype⟩

theorem isTokenChar_of_mem {word : String} {cs : List Char} (h : cs.map Char.toLower = word.toList)
    (tokens : word.toList.all isTokenChar = true) : ∀ c ∈ cs, isTokenChar c = true := by
  intro c hc
  have hlower : c.toLower ∈ word.toList := by
    rw [← h]
    exact List.mem_map_of_mem hc
  exact isTokenChar_of_toLower (List.all_eq_true.mp tokens _ hlower)

/-! ## The law of one text -/

theorem lower_append (s t : String) : Text.lower (s ++ t) = Text.lower s ++ Text.lower t := by
  simp [Text.lower]

theorem sameLetters_name {media : MediaType} (h : media.isJson = true) :
    Text.sameLetters (media.type ++ "/" ++ media.subtype) "application/json" = true := by
  obtain ⟨htype, hsubtype⟩ := Bool.and_eq_true_iff.mp h
  refine beq_iff_eq.mpr ?_
  rw [lower_append, lower_append, beq_iff_eq.mp htype, beq_iff_eq.mp hsubtype]
  decide

/-- A media type is read from its type, a slash and its subtype, and nothing or parameters
follow. -/
theorem parts_of_parse? {text : String} {media : MediaType} (h : parse? text = some media) :
    ∃ rest, text = media.type ++ "/" ++ media.subtype ++ rest ∧
      (rest = "" ∨ ∃ parameters, rest = ";" ++ parameters ∧
        parametersEnd (parameters.toList.length + 1) parameters.toList = true) := by
  unfold parse? at h
  simp only at h
  split at h
  · rename_i c type after htake hdrop
    have hcut : text = String.ofList (text.toList.takeWhile isTokenChar) ++ "/" ++
        String.ofList (after.takeWhile isTokenChar) ++
          String.ofList (after.dropWhile isTokenChar) := by
      rw [← String.toList_inj]
      simp only [String.toList_append, String.toList_ofList, List.append_assoc,
        List.takeWhile_append_dropWhile]
      change _ = _ ++ '/' :: after
      rw [← hdrop, List.takeWhile_append_dropWhile]
    split at h
    · rename_i hend
      obtain rfl := Option.some.inj h
      exact ⟨_, hcut, .inl (by rw [hend])⟩
    · rename_i parameters hend
      by_cases hnone : String.ofList (after.takeWhile isTokenChar) = ""
      · rw [if_pos hnone] at h
        cases h
      · rw [if_neg hnone] at h
        by_cases hparameters : parametersEnd (parameters.length + 1) parameters = true
        · rw [if_pos hparameters] at h
          obtain rfl := Option.some.inj h
          refine ⟨_, hcut, .inr ⟨String.ofList parameters, ?_, ?_⟩⟩
          · rw [hend, ← String.toList_inj]
            simp only [String.toList_append, String.toList_ofList]
            rfl
          · rwa [String.toList_ofList]
        · rw [if_neg hparameters] at h
          cases h
    · cases h
  · cases h

/-- A text is read as the media type of JSON exactly where it is written so. -/
theorem isJsonText_iff {text : String} :
    IsJsonText text ↔ ∃ media, parse? text = some media ∧ media.isJson = true := by
  constructor
  · rintro ⟨name, rest, rfl, hname, hrest⟩
    obtain ⟨type, subtype, hparts, htype, hsubtype⟩ := parts_of_name hname
    have hends : ∀ c ∈ rest.toList.head?, isTokenChar c = false := by
      rcases hrest with rfl | ⟨parameters, rfl, _⟩
      · exact fun c hc => nomatch hc
      · rw [String.toList_append]
        exact fun c hc => by cases hc; decide
    have hslash : ∀ c ∈ ('/' :: (subtype ++ rest.toList)).head?, isTokenChar c = false :=
      fun c hc => by cases hc; decide
    obtain ⟨htake, hdrop⟩ := Text.run_append (isTokenChar_of_mem htype (by decide)) hslash
    obtain ⟨htake', hdrop'⟩ := Text.run_append (isTokenChar_of_mem hsubtype (by decide)) hends
    have htext : (name ++ rest).toList = type ++ '/' :: (subtype ++ rest.toList) := by
      rw [String.toList_append, hparts, List.append_assoc, List.cons_append]
    obtain ⟨c, type, rfl⟩ := List.exists_cons_of_ne_nil (show type ≠ [] by rintro rfl; cases htype)
    have hjson : isJson ⟨String.ofList (c :: type), String.ofList subtype⟩ = true := by
      simp only [isJson, Text.sameLetters, Text.lower, String.toList_ofList, htype, hsubtype]
      decide
    have hsome : String.ofList subtype ≠ "" := by
      intro hempty
      obtain rfl : subtype = [] := by
        rw [← String.toList_ofList (l := subtype), hempty]
        rfl
      cases hsubtype
    refine ⟨⟨String.ofList (c :: type), String.ofList subtype⟩, ?_, hjson⟩
    unfold parse?
    simp only [htext, htake, hdrop, htake', hdrop']
    rcases hrest with rfl | ⟨parameters, rfl, hparameters⟩
    · rfl
    · have hmark : (";" ++ parameters).toList = ';' :: parameters.toList := String.toList_append
      simp only [hmark, if_neg hsome, hparameters, if_true]
  · rintro ⟨media, hparse, hjson⟩
    obtain ⟨rest, hcut, hrest⟩ := parts_of_parse? hparse
    exact ⟨_, rest, hcut, sameLetters_name hjson, hrest⟩

end MediaType

namespace Payload

/-- A header offers JSON where one of the texts between its commas is the media type of JSON,
however many others stand beside it. -/
theorem offersJson_iff {header : String} :
    offersJson header = true ↔
      ∃ candidate ∈ Text.pieces ',' header, MediaType.IsJsonText (Text.trim candidate) := by
  unfold offersJson
  rw [List.any_eq_true]
  refine exists_congr fun candidate => and_congr_right fun _ => ?_
  rw [MediaType.isJsonText_iff]
  split
  · rename_i media hparse
    simp [hparse]
  · rename_i hparse
    simp [hparse]

end Payload

end TableGateway
