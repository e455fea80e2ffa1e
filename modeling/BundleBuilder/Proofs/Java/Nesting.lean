import BundleBuilder.Proofs.Java.Branches

/-!
# Nesting of blocks

The builder class and the dispatch class open and close blocks in a properly nested way, wherever the
writing starts (`classes_nest`). No block is closed that was open before, all blocks are closed at the end,
and every text stands behind four spaces for each block that is open where it is written.

Blocks are opened and closed by separate steps, some of them only under a condition. The argument goes over
lists of steps that close all blocks they open, and a number of others that were open before (`Closes`).
Such lists can be put together: what is open behind the first list can be closed by the second one. As long
as no step closes a block that is not open, the depth is never cut off at zero, and counts the open blocks.
-/

set_option autoImplicit false

namespace BundleBuilder.Java

/-! ## Opening and closing -/

/-- Whether a step opens a block. -/
def Step.isOpening : Step → Bool
  | .opening _ _ => true
  | _ => false

/-- Whether a step closes a block. -/
def Step.isClosing : Step → Bool
  | .closing => true
  | _ => false

/-- The number of steps that open a block. -/
def openings (steps : List Step) : Nat := steps.countP Step.isOpening

/-- The number of steps that close a block. -/
def closings (steps : List Step) : Nat := steps.countP Step.isClosing

section Counts

variable {step : Step} {steps first second : List Step} {annotations : List String}
  {header : String}

theorem openings_append : openings (first ++ second) = openings first + openings second :=
  List.countP_append

theorem closings_append : closings (first ++ second) = closings first + closings second :=
  List.countP_append

theorem openings_opening :
    openings (.opening annotations header :: steps) = openings steps + 1 :=
  List.countP_cons_of_pos rfl

theorem closings_opening : closings (.opening annotations header :: steps) = closings steps :=
  List.countP_cons_of_neg Bool.false_ne_true

theorem openings_closing : openings (.closing :: steps) = openings steps :=
  List.countP_cons_of_neg Bool.false_ne_true

theorem closings_closing : closings (.closing :: steps) = closings steps + 1 :=
  List.countP_cons_of_pos rfl

theorem openings_line (h : step.isOpening = false) : openings (step :: steps) = openings steps :=
  List.countP_cons_of_neg (Bool.eq_false_iff.1 h)

theorem closings_line (h : step.isClosing = false) : closings (step :: steps) = closings steps :=
  List.countP_cons_of_neg (Bool.eq_false_iff.1 h)

theorem depthAfter_line {depth : Nat} (hopening : step.isOpening = false)
    (hclosing : step.isClosing = false) : step.depthAfter depth = depth := by
  cases step with
  | opening annotations header => cases hopening
  | closing => cases hclosing
  | comment text | package name | imports names | field declaration | statement text | blank => rfl

/-- A step that closes a block opens none. -/
theorem closings_singleton_le {depth : Nat} (h : closings [step] ≤ depth + openings [step]) :
    closings [step] ≤ depth := by
  cases step with
  | opening annotations header => exact Nat.zero_le depth
  | closing => exact h
  | comment text | package name | imports names | field declaration | statement text | blank => exact h

end Counts

/-! ## Steps that close what they open -/

/-- The steps close the blocks that they open and a number of others that were open before, and no
further block. -/
inductive Closes : (others : Nat) → List Step → Prop where
  | done : Closes 0 []
  | opening {others : Nat} {annotations : List String} {header : String} {steps : List Step}
      (hsteps : Closes (others + 1) steps) : Closes others (.opening annotations header :: steps)
  | closing {others : Nat} {steps : List Step} (hsteps : Closes others steps) :
      Closes (others + 1) (.closing :: steps)
  /-- A step that neither opens nor closes a block. -/
  | line {others : Nat} {step : Step} {steps : List Step} (hopening : step.isOpening = false)
      (hclosing : step.isClosing = false) (hsteps : Closes others steps) :
      Closes others (step :: steps)

namespace Closes

variable {others more : Nat} {steps first second : List Step}

/-- The second list closes what the first one leaves open. -/
theorem append (hfirst : Closes others first) (hsecond : Closes more second) :
    Closes (others + more) (first ++ second) := by
  induction hfirst with
  | done =>
    rw [Nat.zero_add]
    exact hsecond
  | opening _ ih =>
    rw [Nat.add_right_comm] at ih
    exact .opening ih
  | closing _ ih =>
    rw [Nat.add_right_comm]
    exact .closing ih
  | line hopening hclosing _ ih => exact .line hopening hclosing ih

/-- A block with steps inside it. -/
theorem block {annotations : List String} {header : String} (h : Closes 0 steps) :
    Closes 0 (.opening annotations header :: (steps ++ [.closing])) :=
  .opening (h.append (.closing .done))

theorem flatMap {α : Type} {pieces : α → List Step} (items : List α)
    (h : ∀ item, Closes 0 (pieces item)) : Closes 0 (items.flatMap pieces) := by
  induction items with
  | nil => exact .done
  | cons item items ih =>
    rw [List.flatMap_cons]
    exact (h item).append ih

/-- Behind the steps only those blocks are open that they do not close. -/
theorem depthAfterAll_eq (h : Closes others steps) (base : Nat) :
    depthAfterAll (base + others) steps = base := by
  induction h with
  | done => rfl
  | opening _ ih => exact ih
  | closing _ ih => exact ih
  | line hopening hclosing _ ih =>
    rw [depthAfterAll, List.foldl_cons, depthAfter_line hopening hclosing]
    exact ih

/-- At every point of the steps the depth counts the open blocks. -/
theorem depthAfterAll_add_closings (h : Closes others steps) (base : Nat) :
    ∀ {before : List Step}, before <+: steps →
      depthAfterAll (base + others) before + closings before
        = base + others + openings before := by
  induction h with
  | done =>
    intro before hbefore
    rw [List.prefix_nil.1 hbefore]
    rfl
  | @opening others annotations header _ _ ih =>
    intro before hbefore
    rcases List.prefix_cons_iff.1 hbefore with rfl | ⟨front, rfl, hfront⟩
    · rfl
    · have hinside : depthAfterAll (base + others) (.opening annotations header :: front)
          = depthAfterAll (base + (others + 1)) front := rfl
      have hcount := ih hfront
      rw [hinside, closings_opening, openings_opening]
      omega
  | @closing others _ _ ih =>
    intro before hbefore
    rcases List.prefix_cons_iff.1 hbefore with rfl | ⟨front, rfl, hfront⟩
    · rfl
    · have hbehind : depthAfterAll (base + (others + 1)) (.closing :: front)
          = depthAfterAll (base + others) front := rfl
      have hcount := ih hfront
      rw [hbehind, closings_closing, openings_closing]
      omega
  | line hopening hclosing _ ih =>
    intro before hbefore
    rcases List.prefix_cons_iff.1 hbefore with rfl | ⟨front, rfl, hfront⟩
    · rfl
    · rw [depthAfterAll, List.foldl_cons, depthAfter_line hopening hclosing, closings_line hclosing,
        openings_line hopening]
      exact ih hfront

end Closes

/-! ## The steps of a class -/

/-- Steps that neither open nor close a block. -/
theorem closes_of_lines {steps : List Step}
    (h : ∀ step ∈ steps, step.isOpening = false ∧ step.isClosing = false) : Closes 0 steps := by
  induction steps with
  | nil => exact .done
  | cons step steps ih =>
    obtain ⟨⟨hopening, hclosing⟩, hsteps⟩ := List.forall_mem_cons.1 h
    exact .line hopening hclosing (ih hsteps)

theorem closes_putSteps (platform : Platform) (field : ArgField) (value : String) :
    Closes 0 (putSteps platform field value) := by
  rw [putSteps]
  split
  · exact .line rfl rfl (.line rfl rfl .done)
  · exact .line rfl rfl .done
  · exact .done

/-- The block around a stored value is closed exactly if it was opened. -/
theorem closes_storeSteps (platform : Platform) (field : ArgField) (value : String) :
    Closes 0 (storeSteps platform field value) := by
  have hput := closes_putSteps platform field value
  simp only [storeSteps]
  cases isGuarded field with
  | false => simpa using hput
  | true => exact hput.block

theorem closes_assignmentSteps (names : NameScope) (field : ArgField) (count : Nat) :
    Closes 0 (assignmentSteps names field count).1 := by
  rw [assignmentSteps]
  cases readingOf? names field with
  | none => exact .done
  | some reading =>
    cases field.setter? with
    | none => exact .line rfl rfl .done
    | some setter => exact .line rfl rfl (.line rfl rfl .done)

/-- The block of the check is closed in front of the assignment of a required argument, and behind that
of an optional one. -/
theorem closes_injectionSteps (scope : BuilderScope) (field : ArgField) (count : Nat) :
    Closes 0 (injectionSteps scope field count).1 := by
  have hassigned := closes_assignmentSteps scope.names field count
  simp only [injectionSteps]
  cases field.required with
  | false => exact hassigned.block
  | true => exact .opening (.line rfl rfl (.closing hassigned))

theorem closes_injectionStepsOfAll (scope : BuilderScope) (fields : List ArgField) (count : Nat) :
    Closes 0 (injectionStepsOfAll scope count fields) := by
  induction fields generalizing count with
  | nil => exact .done
  | cons field fields ih =>
    exact (Closes.line rfl rfl (closes_injectionSteps scope field count)).append (ih _)

namespace BuilderScope

variable (scope : BuilderScope)

theorem closes_constructorSteps : Closes 0 scope.constructorSteps :=
  (Closes.flatMap scope.requiredFields fun field =>
    closes_storeSteps scope.platform field field.variableName).block

theorem closes_factorySteps : Closes 0 scope.factorySteps :=
  .opening (.line rfl rfl (.closing .done))

theorem closes_fluentSteps (field : ArgField) : Closes 0 (scope.fluentSteps field) := by
  have hstore := closes_storeSteps scope.platform field field.variableName
  rw [fluentSteps, List.append_assoc]
  exact .opening (hstore.append (.line rfl rfl (.closing .done)))

theorem closes_bundleSteps : Closes 0 scope.bundleSteps :=
  .opening (.line rfl rfl (.closing .done))

theorem closes_injectSteps : Closes 0 scope.injectSteps := by
  have hinjected := closes_injectionStepsOfAll scope scope.controller.fields 0
  rw [injectSteps, List.append_assoc]
  exact .opening (.line rfl rfl (.opening (.line rfl rfl (.closing
    (hinjected.append (.closing .done))))))

theorem closes_buildSteps : Closes 0 scope.buildSteps :=
  .opening (.line rfl rfl (.line rfl rfl (.line rfl rfl (.closing (.line rfl rfl
    (.opening (.line rfl rfl (.line rfl rfl (.closing .done)))))))))

theorem closes_fieldSteps : Closes 0 scope.fieldSteps := by
  refine .line rfl rfl (closes_of_lines fun step hstep => ?_)
  obtain ⟨entry, -, rfl⟩ := List.mem_map.1 hstep
  exact ⟨rfl, rfl⟩

/-- The methods stand inside the block of the class, each behind an empty line. -/
theorem closes_classSteps : Closes 0 scope.classSteps := by
  have hfluent : Closes 0 (scope.controller.optional.values.flatMap fun field =>
      .blank :: scope.fluentSteps field) :=
    Closes.flatMap _ fun field => .line rfl rfl (scope.closes_fluentSteps field)
  have hlast : Closes 1 (.blank :: scope.buildSteps ++ [.closing]) :=
    (Closes.line rfl rfl scope.closes_buildSteps).append (.closing .done)
  have hinject : Closes 1 (.blank :: scope.injectSteps ++ (.blank :: scope.buildSteps ++ [.closing])) :=
    (Closes.line rfl rfl scope.closes_injectSteps).append hlast
  simp only [classSteps, List.append_assoc]
  exact .opening (.line rfl rfl (scope.closes_fieldSteps.append
    ((Closes.line rfl rfl scope.closes_constructorSteps).append
      ((Closes.line rfl rfl scope.closes_factorySteps).append
        (hfluent.append ((Closes.line rfl rfl scope.closes_bundleSteps).append hinject))))))

end BuilderScope

theorem closes_routeSteps (entry : String × Route) : Closes 0 (routeSteps entry) :=
  .opening (.line rfl rfl (.line rfl rfl (.closing .done)))

theorem closes_dispatchSteps (platform : Platform) (routes : Routes) :
    Closes 0 (dispatchSteps platform routes) := by
  have hbranches : Closes 2 (routes.entries.flatMap routeSteps ++ [.closing, .closing]) :=
    (Closes.flatMap routes.entries closes_routeSteps).append (.closing (.closing .done))
  rw [dispatchSteps, List.append_assoc]
  exact .opening (.line rfl rfl (.opening (.closing (.line rfl rfl (.opening
    (.line rfl rfl hbranches))))))

/-! ## Writers -/

namespace Step

/-- The texts that a step puts on lines, each behind the indentation. -/
def texts : Step → List String
  | comment text => ["/* " ++ text ++ " */"]
  | package name => if name = "" then [] else ["package " ++ name ++ ";"]
  | imports names => names.map fun name => "import " ++ name ++ ";"
  | opening annotations header => annotations ++ [openingLine header]
  | closing => ["\x7d"]
  | field declaration => [declaration ++ ";"]
  | statement text => [text ++ ";"]
  | blank => []

/-- The empty line behind the texts of a step, if it leaves one. -/
def gap : Step → List String
  | package name => if name = "" then [] else [""]
  | imports names => if names.isEmpty then [] else [""]
  | blank => [""]
  | _ => []

/-- The texts of a step stand behind the indentation of the blocks around them. A block that the step
opens is not yet among them, and one that it closes is so no more. -/
theorem lines_eq (step : Step) (depth : Nat) :
    step.lines depth = step.texts.map (indented (depth - closings [step])) ++ step.gap := by
  cases step with
  | package name => by_cases hname : name = "" <;> simp [lines, texts, gap, hname, closings, isClosing]
  | imports names => cases names <;> simp [lines, texts, gap, closings, isClosing]
  | opening annotations header => simp [lines, texts, gap, closings, isClosing]
  | closing => rfl
  | comment text | field declaration | statement text | blank => rfl

end Step

/-- A writer: its text so far and the number of open blocks. -/
structure Writer where
  text : String
  depth : Nat

namespace Writer

/-- The writer after some steps. -/
def write (writer : Writer) (steps : List Step) : Writer where
  text := writer.text ++ textOf (linesFrom writer.depth steps)
  depth := depthAfterAll writer.depth steps

/-- A writer that has written nothing. -/
def start : Writer := ⟨"", 0⟩

/-- The layout of steps is the text of a writer that begins with nothing. -/
theorem text_write_start (steps : List Step) : (start.write steps).text = layout steps :=
  String.empty_append

theorem write_append (writer : Writer) (first second : List Step) :
    writer.write (first ++ second) = (writer.write first).write second := by
  simp [write, depthAfterAll_append, linesFrom_append, textOf, String.append_assoc]

/-- What one step adds to the text. -/
theorem text_write_step (writer : Writer) (step : Step) :
    (writer.write [step]).text = writer.text
      ++ textOf (step.texts.map (indented (writer.depth - closings [step])) ++ step.gap) := by
  rw [write, linesFrom, linesFrom, List.append_nil, step.lines_eq]

/-- Steps that a writer carries out in a properly nested way. -/
structure Nests (writer : Writer) (steps : List Step) : Prop where
  /-- There are never fewer open blocks than at the start. -/
  floor : ∀ before, before <+: steps → writer.depth ≤ (writer.write before).depth
  /-- Only blocks that were opened since the start are closed. -/
  closes : ∀ before, before ++ [.closing] <+: steps → writer.depth < (writer.write before).depth
  /-- In the end there are as many open blocks as at the start. -/
  ends : (writer.write steps).depth = writer.depth
  /-- Every text stands behind four spaces for each block that is open where it is written. -/
  indents : ∀ before step, before ++ [step] <+: steps →
    ∃ blocks, blocks + closings (before ++ [step]) = writer.depth + openings before ∧
      (writer.write (before ++ [step])).text
        = (writer.write before).text
          ++ textOf (step.texts.map (String.ofList (List.replicate (4 * blocks) ' ') ++ ·)
            ++ step.gap)

end Writer

/-- Steps that close the blocks that they open, and no others, are carried out in a properly nested way. -/
theorem Closes.nests {steps : List Step} (h : Closes 0 steps) (writer : Writer) :
    writer.Nests steps := by
  have hdepth : ∀ {before : List Step}, before <+: steps →
      (writer.write before).depth + closings before = writer.depth + openings before :=
    h.depthAfterAll_add_closings writer.depth
  have hclosed : ∀ {before : List Step}, before <+: steps → closings before ≤ openings before := by
    intro before hbefore
    have hcount := h.depthAfterAll_add_closings 0 hbefore
    omega
  constructor
  case floor =>
    intro before hbefore
    have hcount := hdepth hbefore
    have hle := hclosed hbefore
    omega
  case closes =>
    intro before hbefore
    have hcount := hdepth ((List.prefix_append before [.closing]).trans hbefore)
    have hle := hclosed hbefore
    have hone : closings [.closing] = 1 := rfl
    have hnone : openings [.closing] = 0 := rfl
    rw [closings_append, openings_append] at hle
    omega
  case ends => exact h.depthAfterAll_eq writer.depth
  case indents =>
    intro before step hbefore
    have hcount := hdepth ((List.prefix_append before [step]).trans hbefore)
    have hle := hclosed hbefore
    rw [closings_append, openings_append] at hle
    have hstep : closings [step] ≤ (writer.write before).depth := closings_singleton_le (by omega)
    refine ⟨(writer.write before).depth - closings [step], ?_, ?_⟩
    · rw [closings_append]
      omega
    · rw [Writer.write_append, Writer.text_write_step]
      rfl

/-- Wherever the writing starts, the builder class and the dispatch class open and close blocks in a
properly nested way. In the generated units they are written behind the head of the unit, by a writer that
began with nothing. -/
theorem classes_nest :
    (∀ writer : Writer,
      (∀ scope : BuilderScope, writer.Nests scope.classSteps) ∧
        ∀ (platform : Platform) (routes : Routes), writer.Nests (dispatchSteps platform routes)) ∧
    (∀ scope : BuilderScope, (builderUnit scope).source
      = ((Writer.start.write [header, .package scope.controller.package,
          .imports scope.names.imports]).write scope.classSteps).text) ∧
    ∀ (platform : Platform) (routes : Routes), (dispatchUnit platform routes).source
      = ((Writer.start.write [header, .package platform.injectorPackage]).write
          (dispatchSteps platform routes)).text := by
  refine ⟨fun writer => ⟨?builders, ?dispatch⟩, ?builderUnits, ?dispatchUnits⟩
  case builders => exact fun scope => scope.closes_classSteps.nests writer
  case dispatch => exact fun platform routes => (closes_dispatchSteps platform routes).nests writer
  case builderUnits =>
    intro scope
    rw [← Writer.write_append, Writer.text_write_start]
    rfl
  case dispatchUnits =>
    intro platform routes
    rw [← Writer.write_append, Writer.text_write_start]
    rfl

end BundleBuilder.Java
