import BundleBuilder.Text.Dotted

/-!
# Joined texts

Joining segments loses nothing as long as no segment contains the first character of the separator: two
joined texts are equal only if the segments are (`join_inj`). If the separator is a single character then
cutting at it gives the segments back (`split_join`).
-/

set_option autoImplicit false

namespace BundleBuilder.Text

/-! ## Cutting -/

/-- A text around a separator is cut on both sides of it. -/
theorem splitChars_append (separator : Char) (front rest : List Char) :
    splitChars separator (front ++ separator :: rest)
      = splitChars separator front ++ splitChars separator rest := by
  induction front with
  | nil => exact splitChars_append_cons List.not_mem_nil rest
  | cons c front ih =>
    rw [List.cons_append, splitChars, splitChars, ih]
    by_cases hc : c = separator
    · rw [if_pos hc, if_pos hc]
      rfl
    · rw [if_neg hc, if_neg hc]
      cases hfront : splitChars separator front with
      | nil => exact absurd hfront (splitChars_ne_nil separator front)
      | cons segment segments => rfl

section Between

variable {separator : Char} {between : String} (hbetween : between.toList = [separator])

include hbetween

theorem split_append (front rest : String) :
    split separator (front ++ between ++ rest) = split separator front ++ split separator rest := by
  have hchars : (front ++ between ++ rest).toList = front.toList ++ separator :: rest.toList := by
    rw [String.toList_append, String.toList_append, hbetween, List.append_assoc]
    rfl
  rw [split, hchars, splitChars_append, List.map_append]
  rfl

end Between

/-- No segment contains the separator. -/
theorem not_mem_of_mem_split {separator : Char} {text segment : String}
    (h : segment ∈ split separator text) : separator ∉ segment.toList := by
  obtain ⟨chars, hchars, rfl⟩ := List.mem_map.1 h
  rw [String.toList_ofList]
  clear h
  generalize text.toList = text at hchars
  induction text generalizing chars with
  | nil =>
    rw [splitChars, List.mem_singleton] at hchars
    rw [hchars]
    exact List.not_mem_nil
  | cons c rest ih =>
    rw [splitChars] at hchars
    split at hchars
    · rcases List.mem_cons.1 hchars with rfl | hrest
      · exact List.not_mem_nil
      · exact ih chars hrest
    · next hc =>
      split at hchars
      · rw [List.mem_singleton] at hchars
        rw [hchars, List.mem_singleton]
        exact fun heq => hc heq.symm
      · next segment segments hsplit =>
        rw [hsplit] at ih
        rcases List.mem_cons.1 hchars with rfl | hrest
        · rw [List.mem_cons, not_or]
          exact ⟨fun heq => hc heq.symm, ih segment List.mem_cons_self⟩
        · exact ih chars (List.mem_cons_of_mem _ hrest)

/-! ## Joining -/

theorem join_append (separator : String) {first second : List String} (hfirst : first ≠ [])
    (hsecond : second ≠ []) :
    join separator (first ++ second) = join separator first ++ separator ++ join separator second := by
  induction first with
  | nil => exact absurd rfl hfirst
  | cons segment first ih =>
    have hne : first ++ second ≠ [] := List.append_ne_nil_of_right_ne_nil _ hsecond
    rw [List.cons_append, join_cons separator segment hne]
    cases first with
    | nil => rw [List.nil_append, join_singleton]
    | cons next first =>
      rw [ih (List.cons_ne_nil _ _), join_cons separator segment (List.cons_ne_nil _ _)]
      simp only [String.append_assoc]

/-- A character that is neither in the separator nor in a segment is not in the text. -/
theorem not_mem_join {c : Char} {separator : String} (hseparator : c ∉ separator.toList)
    {segments : List String} (h : ∀ segment ∈ segments, c ∉ segment.toList) :
    c ∉ (join separator segments).toList := by
  induction segments with
  | nil => exact List.not_mem_nil
  | cons first rest ih =>
    obtain ⟨hfirst, hrest⟩ := List.forall_mem_cons.1 h
    cases rest with
    | nil =>
      rw [join_singleton]
      exact hfirst
    | cons second rest =>
      rw [toList_join_cons_cons, List.mem_append, List.mem_append]
      rintro ((hmem | hmem) | hmem)
      · exact hfirst hmem
      · exact hseparator hmem
      · exact ih hrest hmem

/-- Cutting a text that was joined gives the segments back. -/
theorem split_join {separator : Char} {between : String} (hbetween : between.toList = [separator])
    {segments : List String} (hne : segments ≠ [])
    (h : ∀ segment ∈ segments, separator ∉ segment.toList) :
    split separator (join between segments) = segments := by
  induction segments with
  | nil => exact absurd rfl hne
  | cons first rest ih =>
    obtain ⟨hfirst, hrest⟩ := List.forall_mem_cons.1 h
    have hsplit : split separator first = [first] := by
      rw [split, splitChars_of_not_mem hfirst, List.map_singleton, String.ofList_toList]
    cases rest with
    | nil => rw [join_singleton, hsplit]
    | cons second rest =>
      rw [join_cons between first (List.cons_ne_nil _ _), split_append hbetween, hsplit,
        ih (List.cons_ne_nil _ _) hrest]
      rfl

/-- Segments without the first character of a separator can be read off the text that joins them. -/
theorem join_inj {separator : String} {c : Char} {tail : List Char}
    (hseparator : separator.toList = c :: tail) : ∀ {first second : List String},
    first ≠ [] → second ≠ [] → (∀ segment ∈ first, c ∉ segment.toList) →
      (∀ segment ∈ second, c ∉ segment.toList) →
        join separator first = join separator second → first = second := by
  have hgoes : ∀ (segment next : String) (rest : List String),
      (join separator (segment :: next :: rest)).toList
        = segment.toList ++ c :: (tail ++ (join separator (next :: rest)).toList) := by
    intro segment next rest
    rw [toList_join_cons_cons, hseparator, List.append_assoc]
    rfl
  intro first
  induction first with
  | nil => exact fun hne => absurd rfl hne
  | cons segment first ih =>
    intro second _ hsecondNe hfirst hsecond hjoin
    obtain ⟨other, second, rfl⟩ := List.exists_cons_of_ne_nil hsecondNe
    obtain ⟨hsegment, hfirst⟩ := List.forall_mem_cons.1 hfirst
    obtain ⟨hother, hsecond⟩ := List.forall_mem_cons.1 hsecond
    have hchars := congrArg String.toList hjoin
    cases first with
    | nil =>
      cases second with
      | nil =>
        rw [join_singleton, join_singleton] at hjoin
        rw [hjoin]
      | cons next second =>
        rw [join_singleton, hgoes] at hchars
        exact absurd (hchars ▸ List.mem_append_right _ List.mem_cons_self) hsegment
    | cons next first =>
      cases second with
      | nil =>
        rw [join_singleton, hgoes] at hchars
        exact absurd (hchars ▸ List.mem_append_right _ List.mem_cons_self) hother
      | cons further second =>
        rw [hgoes, hgoes] at hchars
        have hcut := congrArg (splitChars c) hchars
        rw [splitChars_append_cons hsegment, splitChars_append_cons hother] at hcut
        have hhead := (List.cons.inj hcut).1
        rw [hhead] at hchars
        have htail := List.append_cancel_left (List.cons.inj (List.append_cancel_left hchars)).2
        rw [String.toList_inj.1 hhead, ih (List.cons_ne_nil _ _) (List.cons_ne_nil _ _) hfirst hsecond
          (String.toList_inj.1 htail)]

end BundleBuilder.Text
