/-!
# Separated texts

A text is cut at every occurrence of a separator into segments, and segments are joined by a
separator. Cutting and joining are inverse (`join_split`), so that a dotted name is the same as its
non-empty list of segments. The name of a class is read through this view: its last segment is the
simple name, the segments before it are what encloses it.
-/

set_option autoImplicit false

namespace BundleBuilder.Text

/-- Cuts a list of characters at every separator; there is always at least one segment. -/
def splitChars (separator : Char) : List Char → List (List Char)
  | [] => [[]]
  | c :: rest =>
    if c = separator then [] :: splitChars separator rest
    else match splitChars separator rest with
      | [] => [[c]]
      | segment :: segments => (c :: segment) :: segments

/-- Puts a separator between the segments. -/
def joinChars (separator : List Char) : List (List Char) → List Char
  | [] => []
  | [segment] => segment
  | segment :: next :: segments => segment ++ separator ++ joinChars separator (next :: segments)

theorem splitChars_ne_nil (separator : Char) (text : List Char) :
    splitChars separator text ≠ [] := by
  cases text with
  | nil => simp [splitChars]
  | cons c rest =>
    simp only [splitChars]
    split
    · simp
    · split <;> simp

/-- Joining what a cut produced gives back the text. -/
theorem joinChars_splitChars (separator : Char) (text : List Char) :
    joinChars [separator] (splitChars separator text) = text := by
  induction text with
  | nil => rfl
  | cons c rest ih =>
    have hne := splitChars_ne_nil separator rest
    simp only [splitChars]
    cases hs : splitChars separator rest with
    | nil => exact absurd hs hne
    | cons segment segments =>
      rw [hs] at ih
      split
      · next hc =>
        subst hc
        simp [joinChars, ih]
      · cases segments with
        | nil => simpa [joinChars] using ih
        | cons next more => simpa [joinChars] using ih

/-- The segments of a text between the occurrences of a separator. -/
def split (separator : Char) (text : String) : List String :=
  (splitChars separator text.toList).map String.ofList

/-- The segments joined into one text with a separator between them. -/
def join (separator : String) (segments : List String) : String :=
  String.ofList (joinChars separator.toList (segments.map String.toList))

/-- Cutting a text and joining the segments again is the identity. -/
theorem join_split (separator : Char) (text : String) :
    join (String.ofList [separator]) (split separator text) = text := by
  have h : (String.toList ∘ String.ofList) = (id : List Char → List Char) := by
    funext l
    simp
  simp [join, split, h, joinChars_splitChars]

theorem split_ne_nil (separator : Char) (text : String) : split separator text ≠ [] := by
  simp [split, splitChars_ne_nil]

/-- A text without the separator is a single segment. -/
theorem splitChars_of_not_mem {separator : Char} {text : List Char} (h : separator ∉ text) :
    splitChars separator text = [text] := by
  induction text with
  | nil => rfl
  | cons c rest ih =>
    rw [List.mem_cons, not_or] at h
    obtain ⟨hc, hrest⟩ := h
    rw [splitChars, if_neg fun heq => hc heq.symm, ih hrest]

/-- A segment ends in front of the first separator. -/
theorem splitChars_append_cons {separator : Char} {front : List Char} (h : separator ∉ front)
    (rest : List Char) :
    splitChars separator (front ++ separator :: rest) = front :: splitChars separator rest := by
  induction front with
  | nil => rw [List.nil_append, splitChars, if_pos rfl]
  | cons c front ih =>
    rw [List.mem_cons, not_or] at h
    obtain ⟨hc, hfront⟩ := h
    rw [List.cons_append, splitChars, if_neg fun heq => hc heq.symm, ih hfront]

/-- The text of at least two segments is the first one, a separator and the text of the others. -/
theorem toList_join_cons_cons (separator first second : String) (rest : List String) :
    (join separator (first :: second :: rest)).toList
      = first.toList ++ separator.toList ++ (join separator (second :: rest)).toList := by
  simp [join, joinChars]

theorem join_singleton (separator segment : String) : join separator [segment] = segment := by
  simp [join, joinChars]

theorem join_cons (separator first : String) {rest : List String} (h : rest ≠ []) :
    join separator (first :: rest) = first ++ separator ++ join separator rest := by
  obtain ⟨second, rest, rfl⟩ := List.exists_cons_of_ne_nil h
  apply String.toList_inj.1
  rw [toList_join_cons_cons, String.toList_append, String.toList_append]

/-! ## Dotted names -/

/-- The segments of a dotted name. -/
def segments (name : String) : List String :=
  split '.' name

/-- Joins segments with dots. -/
def dotted (names : List String) : String :=
  join "." names

/-- A name is the dotted join of its segments. -/
theorem dotted_segments (name : String) : dotted (segments name) = name :=
  join_split '.' name

/-- A name without a dot has one segment. -/
theorem segments_of_not_mem {name : String} (h : '.' ∉ name.toList) : segments name = [name] := by
  rw [segments, split, splitChars_of_not_mem h, List.map_singleton, String.ofList_toList]

/-- The first segment of a dotted name stands in front of the first dot. -/
theorem segments_append_dot {first : String} (h : '.' ∉ first.toList) (rest : String) :
    segments (first ++ "." ++ rest) = first :: segments rest := by
  have hchars : (first ++ "." ++ rest).toList = first.toList ++ '.' :: rest.toList := by simp
  rw [segments, split, hchars, splitChars_append_cons h, List.map_cons, String.ofList_toList]
  rfl

/-- The last segment of a dotted name. -/
def simpleName (name : String) : String :=
  (segments name).getLast (split_ne_nil '.' name)

/-- Everything before the last dot, or nothing for a name without a dot. -/
def qualifier? (name : String) : Option String :=
  match (segments name).dropLast with
  | [] => none
  | outer => some (dotted outer)

/-- A name with at least one dot, so with more than one segment. -/
def isQualified (name : String) : Bool :=
  name.toList.contains '.'

/-! ## Prefixes -/

/-- A text begins with another. -/
def hasPrefix (start text : String) : Bool :=
  start.toList.isPrefixOf text.toList

theorem hasPrefix_iff (start text : String) :
    hasPrefix start text = true ↔ ∃ rest, text = start ++ rest := by
  rw [hasPrefix, List.isPrefixOf_iff_prefix]
  constructor
  · rintro ⟨rest, hrest⟩
    refine ⟨String.ofList rest, String.toList_inj.1 ?_⟩
    rw [String.toList_append, String.toList_ofList, hrest]
  · rintro ⟨rest, rfl⟩
    exact ⟨rest.toList, String.toList_append.symm⟩

/-- What follows a prefix of a text, if the text begins with it. -/
def dropPrefix? (start text : String) : Option String :=
  (start.toList.isPrefixOf? text.toList).map String.ofList

/-- Removes a list of segments from the front of another, if it stands there. -/
def dropSegments? : List String → List String → Option (List String)
  | [], names => some names
  | _ :: _, [] => none
  | start :: starts, name :: names => if start = name then dropSegments? starts names else none

end BundleBuilder.Text
