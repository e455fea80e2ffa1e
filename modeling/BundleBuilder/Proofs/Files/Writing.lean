import BundleBuilder.Proofs.Files.Canonical
import BundleBuilder.Proofs.Table.Lookup
import Mathlib.Data.List.Induction

/-!
# Writing files in a tree

A file is written at the place to which its path leads, and this place depends on the path alone
(`destination`). Directories on the way may be new; everything else in the tree stays as it is, and the
path then leads to the file (`writes_of_write?`). Different files of one directory, and files of
different names, have different places (`parts_eq_of_pathOf`, `name_eq_of_pathOf`).
-/

set_option autoImplicit false

namespace BundleBuilder.Files

/-! ## Places -/

/-- Where names lead from a place, whatever is there. -/
def resolve (place : Place) : List String → Place
  | [] => place
  | name :: rest =>
    if name = "" ∨ name = "." then resolve place rest
    else if name = ".." then resolve place.dropLast rest
    else resolve (place ++ [name]) rest

/-- Where one name leads from a place, whatever is there. -/
def nextPlace (place : Place) (name : String) : Place :=
  if name = "" ∨ name = "." then place
  else if name = ".." then place.dropLast
  else place ++ [name]

theorem resolve_cons (place : Place) (name : String) (rest : List String) :
    resolve place (name :: rest) = resolve (nextPlace place name) rest := by
  rw [resolve, nextPlace]
  split
  · rfl
  · split <;> rfl

theorem resolve_append (first second : List String) : ∀ place : Place,
    resolve place (first ++ second) = resolve (resolve place first) second := by
  induction first with
  | nil => exact fun _ => rfl
  | cons name first ih =>
    intro place
    rw [List.cons_append, resolve_cons, resolve_cons]
    exact ih _

/-- Proper names lead straight on. -/
theorem resolve_proper {rest : Place} (h : IsProperPlace rest) : ∀ place : Place,
    resolve place rest = place ++ rest := by
  induction rest with
  | nil => exact fun place => (List.append_nil place).symm
  | cons name rest ih =>
    intro place
    obtain ⟨⟨hempty, hdot, hdots, -⟩, hrest⟩ := List.forall_mem_cons.1 h
    rw [resolve, if_neg (not_or.2 ⟨hempty, hdot⟩), if_neg hdots, ih hrest, List.append_assoc]
    rfl

/-- The place to which a path leads for a program that works in a directory, whatever is there. -/
def destination (directory : Place) (path : String) : Place :=
  resolve (if isAbsolute path then [] else directory) (names path)

/-! ## Paths -/

/-- The names of a path that ends with a slash are those of the path without it and an empty one. -/
theorem exists_of_getLast?_slash {path : String} (h : path.toList.getLast? = some '/') :
    ∃ front, path = front ++ "/" := by
  obtain ⟨front, hfront⟩ := List.getLast?_eq_some_iff.1 h
  refine ⟨String.ofList front, String.toList_inj.1 ?_⟩
  rw [String.toList_append, String.toList_ofList, hfront]
  rfl

/-- A part that does not begin at the root stands behind the names of a path, in which nothing or one
slash may be missing. -/
theorem exists_names_appendPath (path : String) :
    ∃ front : List String, ∀ part, isAbsolute part = false →
      names (appendPath path part) = front ++ names part := by
  by_cases hempty : path = ""
  · refine ⟨[], fun part hpart => ?_⟩
    rw [appendPath, hpart, if_neg Bool.false_ne_true, if_pos (.inl hempty), hempty, String.empty_append]
    rfl
  · by_cases hslash : path.toList.getLast? = some '/'
    · obtain ⟨front, rfl⟩ := exists_of_getLast?_slash hslash
      refine ⟨names front, fun part hpart => ?_⟩
      rw [appendPath, hpart, if_neg Bool.false_ne_true, if_pos (.inr hslash), names_append_slash]
    · refine ⟨names path, fun part hpart => ?_⟩
      rw [appendPath, hpart, if_neg Bool.false_ne_true, if_neg (not_or.2 ⟨hempty, hslash⟩),
        names_append_slash]

theorem isAbsolute_appendPath {path part : String} (hpart : isAbsolute part = false) :
    isAbsolute (appendPath path part) = isAbsolute path := by
  have hkeeps : ∀ rest : String, path ≠ "" → isAbsolute (path ++ rest) = isAbsolute path := by
    intro rest hne
    have hchars : path.toList ≠ [] := fun hnil => hne (String.toList_inj.1 hnil)
    obtain ⟨c, tail, hpath⟩ := List.exists_cons_of_ne_nil hchars
    rw [isAbsolute, isAbsolute, String.toList_append, hpath]
    rfl
  rw [appendPath, hpart, if_neg Bool.false_ne_true]
  by_cases hempty : path = ""
  · rw [if_pos (.inl hempty), hempty, String.empty_append, hpart]
    rfl
  · split
    · exact hkeeps part hempty
    · rw [String.append_assoc]
      exact hkeeps _ hempty

/-- The last name of a part is the last name of every path that ends with it. -/
theorem getLast?_names_appendPath (path part : String) :
    (names (appendPath path part)).getLast? = (names part).getLast? := by
  by_cases hpart : isAbsolute part = true
  · rw [appendPath, if_pos hpart]
  · obtain ⟨front, hnames⟩ := exists_names_appendPath path
    rw [hnames part (Bool.eq_false_iff.2 hpart), List.getLast?_append]
    cases hlast : (names part).getLast? with
    | none => exact absurd (List.getLast?_eq_none_iff.1 hlast) (Text.split_ne_nil '/' part)
    | some name => rfl

theorem IsProperName.isAbsolute_eq {name : String} (h : IsProperName name) :
    isAbsolute name = false := by
  rw [isAbsolute, beq_eq_false_iff_ne]
  intro hhead
  exact h.2.2.2 (List.mem_of_head? hhead)

theorem isAbsolute_join {place : Place} (h : IsProperPlace place) (hne : place ≠ []) :
    isAbsolute (Text.join "/" place) = false := by
  have hnames := names_join h hne
  rw [isAbsolute, beq_eq_false_iff_ne]
  intro hhead
  obtain ⟨rest, hrest⟩ := List.head?_eq_some_iff.1 hhead
  -- A path that begins with a slash begins with an empty name.
  rw [names, Text.split, hrest, Text.splitChars, if_pos rfl] at hnames
  exact (h "" (hnames ▸ List.mem_cons_self)).1 rfl

/-- Proper names that are put one behind the other make the path that joins them. -/
theorem foldl_appendPath (parts : Place) :
    IsProperPlace parts → parts.foldl appendPath "" = Text.join "/" parts := by
  induction parts using List.reverseRecOn with
  | nil => exact fun _ => rfl
  | append_singleton parts name ih =>
    intro h
    obtain ⟨hparts, hname⟩ := List.forall_mem_append.1 h
    rw [List.foldl_append, ih hparts, List.foldl_cons, List.foldl_nil, appendPath,
      (hname name List.mem_cons_self).isAbsolute_eq, if_neg Bool.false_ne_true]
    by_cases hnil : parts = []
    · subst hnil
      rw [if_pos (.inl rfl), List.nil_append, Text.join_singleton]
      exact String.empty_append
    · -- The names joined so far neither are empty nor end with a slash: no proper name is empty.
      have hnames := names_join hparts hnil
      have hempty : Text.join "/" parts ≠ "" := by
        intro heq
        rw [heq] at hnames
        exact (hparts "" (hnames ▸ List.mem_cons_self)).1 rfl
      have hslash : (Text.join "/" parts).toList.getLast? ≠ some '/' := by
        intro heq
        obtain ⟨front, hfront⟩ := exists_of_getLast?_slash heq
        have hends := names_append_slash front ""
        rw [String.append_empty, ← hfront, hnames] at hends
        exact (hparts "" (hends ▸ List.mem_append_right _ List.mem_cons_self)).1 rfl
      rw [if_neg (not_or.2 ⟨hempty, hslash⟩), Text.join_append "/" hnil (List.cons_ne_nil name []),
        Text.join_singleton]

/-! ## Distinct places -/

/-- The places to which the files of an output directory lead are those names behind one place. -/
theorem exists_destination (directory : Place) (output : String) :
    ∃ place : Place, ∀ parts : Place, IsProperPlace parts → parts ≠ [] →
      destination directory (appendPath output (Text.join "/" parts)) = place ++ parts := by
  obtain ⟨front, hfront⟩ := exists_names_appendPath output
  refine ⟨resolve (if isAbsolute output then [] else directory) front, fun parts hparts hne => ?_⟩
  have hrelative := isAbsolute_join hparts hne
  rw [destination, isAbsolute_appendPath hrelative, hfront _ hrelative, names_join hparts hne,
    resolve_append, resolve_proper hparts]

/-- A path with a proper last name leads to a place of this name. -/
theorem exists_destination_of_last (directory : Place) (output : String) {path last : String}
    (hproper : IsProperName last) (hlast : (names path).getLast? = some last) :
    ∃ place : Place, destination directory (appendPath output path) = place ++ [last] := by
  rw [← getLast?_names_appendPath output path] at hlast
  obtain ⟨init, hinit⟩ := List.getLast?_eq_some_iff.1 hlast
  refine ⟨resolve (if isAbsolute (appendPath output path) then [] else directory) init, ?_⟩
  rw [destination, hinit, resolve_append, resolve_proper (List.forall_mem_singleton.2 hproper)]

/-- The path of a place behind another one ends with the joined names. -/
theorem exists_pathOf_append (place : Place) :
    ∃ front : String, ∀ parts : Place, parts ≠ [] →
      pathOf (place ++ parts) = front ++ "/" ++ Text.join "/" parts := by
  by_cases hnil : place = []
  · refine ⟨"", fun parts _ => ?_⟩
    rw [hnil, List.nil_append]
    rfl
  · refine ⟨"/" ++ Text.join "/" place, fun parts hne => ?_⟩
    rw [pathOf, Text.join_append "/" hnil hne]
    simp only [String.append_assoc]

/-- Behind one place, names without slashes are determined by the path. -/
theorem parts_eq_of_pathOf {place parts others : Place} (hne : parts ≠ []) (hothersNe : others ≠ [])
    (hparts : ∀ name ∈ parts, '/' ∉ name.toList) (hothers : ∀ name ∈ others, '/' ∉ name.toList)
    (h : pathOf (place ++ parts) = pathOf (place ++ others)) : parts = others := by
  obtain ⟨front, hfront⟩ := exists_pathOf_append place
  rw [hfront parts hne, hfront others hothersNe] at h
  generalize front ++ "/" = start at h
  have hchars := congrArg String.toList h
  rw [String.toList_append, String.toList_append] at hchars
  exact Text.join_inj rfl hne hothersNe hparts hothers
    (String.toList_inj.1 (List.append_cancel_left hchars))

/-- The last name of a place is determined by the path. -/
theorem name_eq_of_pathOf {place other : Place} {name otherName : String} (hname : '/' ∉ name.toList)
    (hotherName : '/' ∉ otherName.toList)
    (h : pathOf (place ++ [name]) = pathOf (other ++ [otherName])) : name = otherName := by
  have hlast : ∀ (place : Place) (name : String), '/' ∉ name.toList →
      (names (pathOf (place ++ [name]))).getLast? = some name := by
    intro place name hname
    obtain ⟨front, hfront⟩ := exists_pathOf_append place
    rw [hfront [name] (List.cons_ne_nil _ _), Text.join_singleton, names_append_slash,
      names_of_not_mem hname, List.getLast?_concat]
  have hnames := hlast place name hname
  rw [h, hlast other otherName hotherName] at hnames
  exact (Option.some.inj hnames).symm

namespace Tree

/-! ## What writing changes -/

/-- What is at a place depends on its path only. -/
theorem lookup_congr (tree : Tree) {place other : Place} (h : pathOf place = pathOf other) :
    tree.entry? place = tree.entry? other :=
  congrArg tree.entries.find? h

theorem lookup_put (tree : Tree) (place : Place) (entry : Entry) (other : Place) :
    Tree.entry? (tree.put place entry) other
      = if pathOf other = pathOf place then some entry else tree.entry? other :=
  Table.InsertionTable.find?_insert _ _ _ _

theorem read?_of_file {tree : Tree} {place : Place} {contents? : Option String}
    (h : tree.entry? place = some (.file contents?)) : tree.read? place = contents? := by
  have hentry : tree.entries.find? (pathOf place) = some (.file contents?) := h
  rw [read?, contentsAt?, hentry]

/-- All directories of a tree are directories of another one as well. -/
def KeepsDirectories (before after : Tree) : Prop :=
  ∀ place, before.isDirectory place = true → after.isDirectory place = true

/-- Everything in a tree is in another one as well. -/
def Extends (before after : Tree) : Prop :=
  ∀ place entry, before.entry? place = some entry → after.entry? place = some entry

theorem Extends.keepsDirectories {before after : Tree} (h : Extends before after) :
    KeepsDirectories before after := by
  intro place hplace
  rw [isDirectory, beq_iff_eq] at hplace ⊢
  exact h place .directory hplace

theorem extends_put {tree : Tree} {place : Place} (entry : Entry) (h : tree.entry? place = none) :
    Extends tree (tree.put place entry) := by
  intro other found hfound
  rw [lookup_put, if_neg]
  · exact hfound
  · intro heq
    rw [lookup_congr tree heq, h] at hfound
    cases hfound

theorem Extends.trans {before middle after : Tree} (h : Extends before middle)
    (hafter : Extends middle after) : Extends before after := fun place entry hentry =>
  hafter place entry (h place entry hentry)

/-- From a directory, the rest of a way is followed from where its first name leads. -/
theorem walk_cons {tree : Tree} {place : Place} (hplace : tree.isDirectory place = true)
    (name : String) (rest : List String) :
    tree.walk place (name :: rest) = tree.walk (nextPlace place name) rest := by
  rw [walk, hplace, nextPlace]
  simp only [Bool.not_true, Bool.false_eq_true, if_false]
  split
  · rfl
  · split <;> rfl

/-- One step of making the directories on a way starts at a directory, and it goes on from where the
first name leads, in a tree to which at most this place was added. -/
theorem makeDirectories_cons {tree after : Tree} {place parent : Place} {name : String}
    {names : List String} (h : tree.makeDirectories place (name :: names) = some (after, parent)) :
    tree.isDirectory place = true ∧
      ∃ middle, Extends tree middle ∧
        middle.makeDirectories (nextPlace place name) names = some (after, parent) := by
  rw [makeDirectories] at h
  split at h
  · cases h
  · next hdirectory =>
    refine ⟨by simpa using hdirectory, ?_⟩
    rw [nextPlace]
    split at h
    · next hstay => exact ⟨tree, fun _ _ => id, by rwa [if_pos hstay]⟩
    · next hmove =>
      rw [if_neg hmove]
      split at h
      · next hup => exact ⟨tree, fun _ _ => id, by rwa [if_pos hup]⟩
      · next hdown =>
        rw [if_neg hdown]
        dsimp only at h
        split at h
        · exact ⟨tree, fun _ _ => id, h⟩
        · next hnew =>
          split at h
          · exact ⟨tree.put (place ++ [name]) .directory, extends_put .directory hnew, h⟩
          · cases h

/-- Making the directories on a way keeps everything; the way then leads to a directory, and it does so
as long as there are these directories. -/
theorem makeDirectories_eq_some {names : List String} : ∀ {tree after : Tree} {place parent : Place},
    tree.makeDirectories place names = some (after, parent) →
      parent = resolve place names ∧ after.isDirectory parent = true ∧ Extends tree after ∧
        ∀ later, KeepsDirectories after later → ∀ rest,
          later.walk place (names ++ rest) = later.walk parent rest := by
  induction names with
  | nil =>
    intro tree after place parent h
    rw [makeDirectories] at h
    split at h
    · next hdirectory =>
      cases h
      exact ⟨rfl, hdirectory, fun _ _ => id, fun _ _ _ => rfl⟩
    · cases h
  | cons name names ih =>
    intro tree after place parent h
    obtain ⟨hplace, middle, hmiddle, hmade⟩ := makeDirectories_cons h
    obtain ⟨hparent, hend, hextends, hfurther⟩ := ih hmade
    have hall := hmiddle.trans hextends
    refine ⟨hparent.trans (resolve_cons place name names).symm, hend, hall,
      fun later hkeeps rest => ?_⟩
    have hlater := hkeeps place (hall.keepsDirectories place hplace)
    rw [List.cons_append, walk_cons hlater]
    exact hfurther later hkeeps rest

/-- What writing a file at a path does to a tree. -/
structure Writes (tree : Tree) (directory : Place) (path : String) (contents? : Option String)
    (after : Tree) : Prop where
  /-- The file has the contents. -/
  written : after.entry? (destination directory path) = some (.file contents?)
  /-- No directory is lost. -/
  directories : KeepsDirectories tree after
  /-- Other files stay as they are. -/
  files : ∀ place contents?, pathOf place ≠ pathOf (destination directory path) →
    tree.entry? place = some (.file contents?) → after.entry? place = some (.file contents?)
  /-- The path leads to the file, as long as there are the directories. -/
  found : ∀ later, KeepsDirectories after later →
    (later.entry? (destination directory path)).isSome →
      later.locate? directory path = some (destination directory path)

theorem writes_of_write? {tree after : Tree} {directory : Place} {path : String}
    {contents? : Option String} (h : tree.write? directory path contents? = some after) :
    Writes tree directory path contents? after := by
  obtain ⟨name, hnames⟩ : ∃ name, names path = (names path).dropLast ++ [name] :=
    ⟨_, (List.dropLast_concat_getLast (Text.split_ne_nil '/' path)).symm⟩
  have hlast : (names path).getLast?.getD "" = name := by
    rw [hnames, List.getLast?_concat]
    rfl
  unfold write? at h
  simp only [hlast] at h
  split at h
  · cases h
  · next middle parent hmade =>
    obtain ⟨hparent, hdirectory, hextends, hwalk⟩ := makeDirectories_eq_some hmade
    split at h
    · cases h
    · next hproper =>
      simp only [not_or] at hproper
      obtain ⟨hempty, hdot, hdots, -⟩ := hproper
      split at h
      · cases h
      · next hfile =>
        cases h
        have htarget : destination directory path = parent ++ [name] := by
          rw [destination, hnames, resolve_append, ← hparent, resolve,
            if_neg (not_or.2 ⟨hempty, hdot⟩), if_neg hdots]
          rfl
        have hkeeps : KeepsDirectories middle
            (middle.put (parent ++ [name]) (.file contents?)) := by
          intro place hplace
          rw [isDirectory, lookup_put, if_neg]
          · exact hplace
          · intro heq
            rw [isDirectory, lookup_congr middle heq] at hplace
            exact hfile hplace
        refine ⟨?_, fun place hplace => hkeeps place (hextends.keepsDirectories place hplace), ?_, ?_⟩
        · rw [htarget, lookup_put, if_pos rfl]
        · intro place other hne hentry
          rw [htarget] at hne
          rw [lookup_put, if_neg hne]
          exact hextends place _ hentry
        · intro later hlater hsome
          have hpath : path ≠ "" := by
            rintro rfl
            exact hempty (List.singleton_inj.1 hnames).symm
          have hkept : KeepsDirectories middle later := fun place hplace =>
            hlater place (hkeeps place hplace)
          rw [htarget] at hsome ⊢
          rw [locate?, if_neg hpath, hnames, hwalk later hkept, walk, hkept parent hdirectory]
          simp only [Bool.not_true, Bool.false_eq_true, if_false, hempty, hdot, hdots, or_self]
          rw [walk, if_pos hsome]

end Tree

end BundleBuilder.Files
