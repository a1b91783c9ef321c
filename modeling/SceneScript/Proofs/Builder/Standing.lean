import SceneScript.Proofs.Builder.Acceptance

/-!
# What is still in force

The End of an attribute or object scope gives up whatever was done to the graphics state in it. So
at any moment of a run the graphics state is the work of the steps that are in no such scope that
was closed by then. These are the `standing` steps of the run. Scopes of transforms do not matter to
them: they put back the current transforms and the active slots, and nothing else.

`look_after` says so of the graphics state without transforms: it is what the standing steps make of
the one at the start, each by its `paint`. What it says of single parts, such as the parameters that
are handed down, is read off `paint`.

The proof follows all graphics states of a builder, the current one and those that are saved
(`layers`). A directive paints the first of them, or puts a copy in front, or takes some off
(`Relook`); and the layer below `n` scopes is the work of the steps that stand outside of these
(`Layered`).
-/

set_option autoImplicit false

namespace SceneScript

variable {α : Type}

/-! ## What directives do to the graphics state -/

/-- The graphics state without the current transforms and the active slots. -/
def GraphicsState.look [Scalar α] (g : GraphicsState α) : GraphicsState α :=
  { g with ctm := .identity, active := .all }

/-- What a directive that is given to a builder makes of a graphics state, transforms apart. What it
takes from the moment at which it is given, it takes from the builder: the color space with which
parameters are handed down, the place of a new material, and all that an area light keeps. -/
def Directive.paint (b : Builder α) (loc : Location α) :
    Directive α → GraphicsState α → GraphicsState α
  | .colorSpace name, g => { g with colorSpace := (ColorSpace.ofName? name).getD g.colorSpace }
  | .attributes target params, g =>
    match EntityKind.ofName? target with
    | some kind => g.handDown kind (params.map (Builder.inheritable b.graphics.colorSpace))
    | none => g
  | .material _ _, g => { g with material := .index b.scene.materials.length }
  | .namedMaterial name, g => { g with material := .named name }
  | .mediumInterface inside outside, g =>
    { g with insideMedium := inside, outsideMedium := outside }
  | .areaLightSource name params, g =>
    { g with
      areaLight := some ⟨name, params, b.graphics.inherited.light, b.graphics.colorSpace, loc⟩ }
  | .reverseOrientation, g => g.reverse
  | .objectBegin name, g => g.handDown .shape [Builder.objectName b.graphics name loc]
  | _, g => g

namespace Builder

/-! ## Steps of a run -/

/-- A directive of a run, with the builder that it is given to. -/
structure Step (α : Type) where
  builder : Builder α
  directive : LocatedDirective α

/-- The number of open scopes that save the graphics state: those of attributes and of objects. -/
def graphicsDepth (b : Builder α) : Nat :=
  b.openScopes.scopes.countP (·.kind.savesGraphics)

variable [Scalar α]

/-- How deep a step stands in such scopes. ObjectBegin stands in the scope that it opens. -/
def Step.depth (setup : BuildSetup α) (s : Step α) : Nat :=
  graphicsDepth (next setup s.builder s.directive)

/-- Whether none of the scopes around a step of some depth is closed in the run that follows. -/
def staysWithin (setup : BuildSetup α) (depth : Nat) : Builder α → List (LocatedDirective α) → Bool
  | _, [] => true
  | b, d :: rest =>
    decide (depth ≤ graphicsDepth (next setup b d)) && staysWithin setup depth (next setup b d) rest

/-- The steps of a run that are in no attribute or object scope that the run has closed. -/
def standing (setup : BuildSetup α) : Builder α → List (LocatedDirective α) → List (Step α)
  | _, [] => []
  | b, d :: rest =>
    if staysWithin setup (graphicsDepth (next setup b d)) (next setup b d) rest then
      ⟨b, d⟩ :: standing setup (next setup b d) rest
    else standing setup (next setup b d) rest

section Standing

variable {setup : BuildSetup α} {b : Builder α} {ds : List (LocatedDirective α)}

theorem staysWithin_iff {n : Nat} :
    staysWithin setup n b ds = true ↔
      ∀ d c, Given setup b ds d c → n ≤ graphicsDepth (next setup c d) := by
  induction ds generalizing b with
  | nil =>
    refine ⟨fun _ d c given => ?_, fun _ => rfl⟩
    obtain ⟨before, rest, split, -⟩ := given
    exact absurd split.symm (by simp)
  | cons e ds ih =>
    rw [staysWithin, Bool.and_eq_true, decide_eq_true_iff, ih]
    constructor
    · rintro ⟨first, others⟩ d c ⟨before, rest, split, rfl⟩
      cases before with
      | nil =>
        obtain ⟨rfl, rfl⟩ := List.cons.inj split
        exact first
      | cons e' before =>
        obtain ⟨rfl, rfl⟩ := List.cons.inj split
        exact others d _ ⟨before, rest, rfl, rfl⟩
    · intro all
      refine ⟨all e b ⟨[], ds, rfl, rfl⟩, ?_⟩
      rintro d c ⟨before, rest, rfl, rfl⟩
      exact all d _ ⟨e :: before, rest, rfl, rfl⟩

/-- A step of a run stands if, and only if, the depth never falls below its own afterwards. -/
theorem mem_standing_iff {s : Step α} :
    s ∈ standing setup b ds ↔
      ∃ before rest, ds = before ++ s.directive :: rest ∧ s.builder = after setup b before ∧
        ∀ d c, Given setup (next setup s.builder s.directive) rest d c →
          s.depth setup ≤ graphicsDepth (next setup c d) := by
  induction ds generalizing b with
  | nil => simp [standing]
  | cons e ds ih =>
    -- the step is the first of the run, or one of the others
    have here : s ∈ standing setup b (e :: ds) ↔
        (s = ⟨b, e⟩ ∧ staysWithin setup (s.depth setup) (next setup b e) ds = true) ∨
          s ∈ standing setup (next setup b e) ds := by
      rw [standing]
      split
      · rename_i stays
        rw [List.mem_cons]
        refine or_congr_left ⟨fun same => ⟨same, ?_⟩, And.left⟩
        rw [same]
        exact stays
      · rename_i falls
        refine ⟨Or.inr, fun h => h.resolve_left ?_⟩
        rintro ⟨rfl, stays⟩
        exact falls stays
    rw [here, ih, staysWithin_iff]
    constructor
    · rintro (⟨rfl, stays⟩ | ⟨before, rest, rfl, builder, stays⟩)
      · exact ⟨[], ds, rfl, rfl, stays⟩
      · exact ⟨e :: before, rest, rfl, builder, stays⟩
    · rintro ⟨before, rest, split, builder, stays⟩
      cases before with
      | nil =>
        obtain ⟨rfl, rfl⟩ := List.cons.inj split
        obtain ⟨c, d⟩ := s
        obtain rfl : c = b := builder
        exact Or.inl ⟨rfl, stays⟩
      | cons e' before =>
        obtain ⟨rfl, rfl⟩ := List.cons.inj split
        exact Or.inr ⟨before, rest, rfl, builder, stays⟩

theorem given_of_mem_standing {s : Step α} (mem : s ∈ standing setup b ds) :
    Given setup b ds s.directive s.builder := by
  obtain ⟨before, rest, split, builder, -⟩ := mem_standing_iff.1 mem
  exact ⟨before, rest, split, builder⟩

theorem staysWithin_append {n : Nat} (es : List (LocatedDirective α)) :
    staysWithin setup n b (ds ++ es) =
      (staysWithin setup n b ds && staysWithin setup n (after setup b ds) es) := by
  induction ds generalizing b with
  | nil => rfl
  | cons e ds ih =>
    rw [List.cons_append, staysWithin, staysWithin, ih, after_cons, Bool.and_assoc]

/-- With one more directive, the steps that it leaves behind in a closed scope fall away. -/
theorem standing_concat (d : LocatedDirective α) :
    standing setup b (ds ++ [d]) =
      (standing setup b ds).filter
        (fun s => decide (s.depth setup ≤ graphicsDepth (next setup (after setup b ds) d))) ++
        [⟨after setup b ds, d⟩] := by
  induction ds generalizing b with
  | nil => rfl
  | cons e ds ih =>
    rw [List.cons_append, standing, standing, ih, staysWithin_append, staysWithin, staysWithin,
      Bool.and_true, after_cons]
    have depth : Step.depth setup ⟨b, e⟩ = graphicsDepth (next setup b e) := rfl
    cases staysWithin setup (graphicsDepth (next setup b e)) (next setup b e) ds with
    | false => rfl
    | true =>
      -- `e` stood so far, so it is up to the last directive whether it still does
      rw [Bool.true_and, if_pos rfl, List.filter_cons, depth]
      split <;> rfl

/-- No step stands deeper than the run has come to. -/
theorem depth_le_of_mem_standing {s : Step α} (mem : s ∈ standing setup b ds) :
    s.depth setup ≤ graphicsDepth (after setup b ds) := by
  obtain ⟨before, rest, rfl, builder, stays⟩ := mem_standing_iff.1 mem
  rw [after_append, after_cons, ← builder]
  rcases List.eq_nil_or_concat rest with rfl | ⟨init, last, rfl⟩
  · exact Nat.le_refl _
  · rw [List.concat_eq_append] at stays ⊢
    rw [after_append]
    exact stays last _ (.last init last)

end Standing

/-! ## Painting -/

section Paint

variable {setup : BuildSetup α} {loc : Location α} {b : Builder α} {d : Directive α}
  {o : Outcome (BuildError α) (Builder α) (BuildNotice α) Unit}

/-- What a step makes of the graphics state, if its directive is accepted. -/
def Step.paint (setup : BuildSetup α) (s : Step α) (g : GraphicsState α) : GraphicsState α :=
  if accepts setup s.builder s.directive then
    s.directive.directive.paint s.builder s.directive.loc g
  else g

omit [Scalar α] in
theorem graphics_addStillShape (b : Builder α) (s : StillShape α) :
    (b.addStillShape s).graphics = b.graphics := by
  unfold addStillShape
  split <;> rfl

omit [Scalar α] in
theorem graphics_addMovingShape (b : Builder α) (s : MovingShape α) :
    (b.addMovingShape s).graphics = b.graphics := by
  unfold addMovingShape
  split <;> rfl

/-- A directive that leaves the scopes alone paints the graphics state. -/
theorem Effect.paints (effect : Effect setup loc b d o) (done : o.result = .ok ())
    (heard : d.isVoid = false) : o.state.graphics.look = d.paint b loc b.graphics.look := by
  cases effect with
  | ignored void => exact absurd (void.symm.trans heard) (by simp)
  | refused _ _ => exact absurd done (by simp)
  | transformed does =>
    cases d <;> first | rfl | exact absurd does (by simp [Directive.transformation?])
  | image part => cases d <;> first | rfl | exact absurd part (by simp [Directive.imagePart?])
  | colorSpace known => simp [GraphicsState.look, Directive.paint, known]
  | attributes known => simp [GraphicsState.look, Directive.paint, known, GraphicsState.handDown]
  | stillShape _ => exact congrArg GraphicsState.look (graphics_addStillShape _ _)
  | movingShape _ => exact congrArg GraphicsState.look (graphics_addMovingShape _ _)
  | _ => rfl

end Paint

/-! ## Layers -/

/-- The graphics states of a builder without their transforms: the current one, and behind it those
that the Ends of the open scopes bring back. -/
def layers (b : Builder α) : List (GraphicsState α) :=
  (b.graphics :: b.savedGraphics).map (·.look)

section Layers

variable {b : Builder α}

theorem layers_restore (kind : ScopeKind)
    (saved : kind.savesGraphics = true → b.savedGraphics ≠ []) :
    (b.restore kind).layers = b.layers.drop (if kind.savesGraphics then 1 else 0) := by
  cases kind with
  | transforms =>
    simp only [restore, ScopeKind.savesGraphics]
    split <;> rfl
  | attributes | object =>
    cases h : b.savedGraphics with
    | nil => exact absurd h (saved rfl)
    | cons g rest => simp [layers, restore, ScopeKind.savesGraphics, h]

theorem layers_restoreAll (scopes : List (Scope α))
    (enough : scopes.countP (·.kind.savesGraphics) ≤ b.savedGraphics.length) :
    (b.restoreAll scopes).layers = b.layers.drop (scopes.countP (·.kind.savesGraphics)) := by
  induction scopes generalizing b with
  | nil => rfl
  | cons s rest ih =>
    have step : b.restoreAll (s :: rest) = (b.restore s.kind).restoreAll rest := rfl
    rw [List.countP_cons] at enough ⊢
    have saved : s.kind.savesGraphics = true → b.savedGraphics ≠ [] := by
      intro saves empty
      simp [saves, empty] at enough
    -- taking one state off leaves enough for the scopes further out
    have others : rest.countP (·.kind.savesGraphics) ≤ (b.restore s.kind).savedGraphics.length := by
      rw [savedGraphics_restore]
      split at enough
      · rename_i saves
        rw [if_pos saves, List.length_tail]
        omega
      · rename_i keeps
        rw [if_neg keeps]
        exact enough
    rw [step, ih others, layers_restore s.kind saved, List.drop_drop, Nat.add_comm]

theorem layers_finishObject : b.finishObject.layers = b.layers := by
  simp [layers]

omit [Scalar α] in
theorem graphicsDepth_push (b : Builder α) (kind : ScopeKind) (loc : Location α) :
    (b.openScopes.push kind loc).scopes.countP (·.kind.savesGraphics) =
      graphicsDepth b + if kind.savesGraphics then 1 else 0 := by
  rw [OpenScopes.scopes_push, List.countP_cons, graphicsDepth]

omit [Scalar α] in
/-- There are as many scopes that saved a graphics state as there are saved graphics states. -/
theorem graphicsDepth_eq (lock : Lockstep b) : graphicsDepth b = b.savedGraphics.length := by
  rw [lock.savedGraphics]
  unfold graphicsDepth
  generalize b.openScopes.scopes = scopes
  induction scopes with
  | nil => rfl
  | cons s rest ih =>
    rw [List.countP_cons, ih, Scope.countKind_cons, Scope.countKind_cons]
    cases s.kind <;> simp [ScopeKind.savesGraphics] <;> omega

theorem layers_leave {s : Scope α} {rest : List (Scope α)} (lock : Lockstep b)
    (scopes : b.openScopes.scopes = s :: rest) :
    (b.leave rest s.kind).layers = b.layers.drop (if s.kind.savesGraphics then 1 else 0) := by
  have restored : ({ b with openScopes := ⟨rest⟩ }.restore s.kind).layers =
      b.layers.drop (if s.kind.savesGraphics then 1 else 0) :=
    layers_restore s.kind (lock.savedGraphics_ne_nil scopes)
  unfold leave
  split
  · exact layers_finishObject.trans restored
  · exact restored

theorem layers_endWorld (lock : Lockstep b) :
    b.endWorld.layers = b.layers.drop (graphicsDepth b) := by
  have restored := layers_restoreAll (b := { b with openScopes := .none }) b.openScopes.scopes
    (Nat.le_of_eq (graphicsDepth_eq lock))
  exact layers_finishObject.trans restored

end Layers

/-! ## One step -/

/-- What a directive does to the layers of a builder `b`, and to the number of scopes around it. -/
inductive Relook (setup : BuildSetup α) (b : Builder α) (d : LocatedDirective α) :
    Builder α → Prop
  | paints {b' : Builder α} : graphicsDepth b' = graphicsDepth b →
      b'.layers = Step.paint setup ⟨b, d⟩ b.graphics.look :: b.layers.tail → Relook setup b d b'
  | opens {b' : Builder α} : graphicsDepth b' = graphicsDepth b + 1 →
      b'.layers = Step.paint setup ⟨b, d⟩ b.graphics.look :: b.layers → Relook setup b d b'
  | closes {b' : Builder α} (n : Nat) : graphicsDepth b' + n = graphicsDepth b →
      b'.layers = b.layers.drop n → (∀ g, Step.paint setup ⟨b, d⟩ g = g) → Relook setup b d b'

section Relook

variable {setup : BuildSetup α} {b : Builder α}

theorem relook_next (reach : Reachable setup b) (d : LocatedDirective α) :
    Relook setup b d (next setup b d) := by
  cases accepted : accepts setup b d with
  | false =>
    -- nothing happens, as if no scope at all were closed
    rw [next_of_not_accepts reach accepted]
    exact .closes 0 rfl rfl fun g => by simp [Step.paint, accepted]
  | true =>
    have lock := lockstep_of_reachable reach
    have paint : ∀ g, Step.paint setup ⟨b, d⟩ g = d.directive.paint b d.loc g :=
      fun g => if_pos accepted
    have done := finished_of_accepts accepted
    have heard := isVoid_of_accepts accepted
    have placed := placed_of_accepts accepted
    have effect := effect_of_accepts accepted
    have outcome := outcome_interpretAt reach d
    unfold next
    generalize (interpretAt setup d).run b = o at done effect outcome ⊢
    generalize which : d.directive = directive at paint heard placed effect outcome
    cases outcome with
    | ignored why =>
      rcases why with misplaced | void
      · exact absurd (placed.symm.trans misplaced) (by simp)
      · exact absurd (void.symm.trans heard) (by simp)
    | refused _ _ => exact absurd done (by simp)
    | plain plain _ same _ =>
      refine .paints (by rw [graphicsDepth, same.openScopes]; rfl) ?_
      rw [paint, ← (effect plain).paints rfl heard]
      simp only [layers, same.savedGraphics, List.map_cons, List.tail_cons]
    | worldBegin _ => exact .paints rfl (by rw [paint]; rfl)
    | attributeBegin _ => exact .opens (graphicsDepth_push b .attributes d.loc) (by rw [paint]; rfl)
    | transformBegin _ => exact .paints (graphicsDepth_push b .transforms d.loc) (by rw [paint]; rfl)
    | objectBegin _ _ _ => exact .opens (graphicsDepth_push b .object d.loc) (by rw [paint]; rfl)
    | @closed _ s rest role _ scopes =>
      refine .closes _ ?_ (layers_leave lock scopes) fun g => ?_
      · rw [graphicsDepth, graphicsDepth, openScopes_leave, scopes, List.countP_cons]
      · rw [paint]
        cases directive <;> first | rfl | exact absurd role (by simp [Directive.scopeRole])
    | worldEnd _ =>
      -- all scopes are closed at once
      refine .closes _ ?_ (layers_endWorld lock) fun g => paint g
      rw [graphicsDepth, lock.stacks_endWorld.1]
      exact Nat.zero_add _

end Relook

/-! ## Whole runs -/

section Layered

variable {setup : BuildSetup α} {start b b' : Builder α} {d : LocatedDirective α}
  {steps : List (Step α)}

/-- What steps in turn make of a graphics state. -/
def painted (setup : BuildSetup α) (g : GraphicsState α) (steps : List (Step α)) :
    GraphicsState α :=
  steps.foldl (fun g s => s.paint setup g) g

theorem painted_concat (g : GraphicsState α) (steps : List (Step α)) (s : Step α) :
    painted setup g (steps ++ [s]) = s.paint setup (painted setup g steps) := by
  rw [painted, List.foldl_append]
  rfl

/-- The steps among some that stand outside of the innermost `i` scopes of a builder. -/
def outside (setup : BuildSetup α) (b : Builder α) (i : Nat) (steps : List (Step α)) :
    List (Step α) :=
  steps.filter fun s => decide (s.depth setup + i ≤ graphicsDepth b)

/-- Every layer of a builder is the work of those steps that stand outside of the scopes over it. -/
def Layered (setup : BuildSetup α) (g : GraphicsState α) (steps : List (Step α)) (b : Builder α) :
    Prop :=
  ∀ i layer, b.layers[i]? = some layer → layer = painted setup g (outside setup b i steps)

theorem outside_concat (i : Nat) :
    outside setup (next setup b d) i
        (steps.filter (fun s => decide (s.depth setup ≤ graphicsDepth (next setup b d))) ++
          [⟨b, d⟩]) =
      outside setup (next setup b d) i steps ++ if i = 0 then [⟨b, d⟩] else [] := by
  have depth : Step.depth setup ⟨b, d⟩ = graphicsDepth (next setup b d) := rfl
  unfold outside
  rw [List.filter_append, List.filter_filter, List.filter_singleton, depth]
  congr 1
  · refine List.filter_congr fun s _ => ?_
    rw [← Bool.decide_and]
    exact decide_eq_decide.2 ⟨And.left, fun h => ⟨h, by omega⟩⟩
  · cases i with
    | zero => simp
    | succ j => simp

theorem outside_congr {i j : Nat}
    (same : ∀ s ∈ steps, s.depth setup + i ≤ graphicsDepth b ↔
      s.depth setup + j ≤ graphicsDepth b') :
    outside setup b i steps = outside setup b' j steps :=
  List.filter_congr fun s hs => decide_eq_decide.2 (same s hs)

/-- A directive joins the steps that stand, and leaves the layers to them. -/
theorem Layered.next {g : GraphicsState α} (layered : Layered setup g steps b)
    (bounded : ∀ s ∈ steps, s.depth setup ≤ graphicsDepth b)
    (relook : Relook setup b d (next setup b d)) :
    Layered setup g
      (steps.filter (fun s => decide (s.depth setup ≤ graphicsDepth (Builder.next setup b d))) ++
        [⟨b, d⟩]) (Builder.next setup b d) := by
  have first : b.graphics.look = painted setup g (outside setup b 0 steps) :=
    layered 0 b.graphics.look rfl
  intro i layer found
  rw [outside_concat]
  cases relook with
  | paints depth layers =>
    rw [layers] at found
    cases i with
    | zero =>
      obtain rfl := Option.some.inj found
      rw [if_pos rfl, painted_concat, first]
      exact congrArg (fun l => Step.paint setup ⟨b, d⟩ (painted setup g l))
        (outside_congr fun s _ => by rw [depth])
    | succ j =>
      rw [List.getElem?_cons_succ, List.getElem?_tail] at found
      rw [if_neg (Nat.succ_ne_zero j), List.append_nil, layered _ _ found]
      exact congrArg (painted setup g) (outside_congr fun s _ => by rw [depth])
  | opens depth layers =>
    rw [layers] at found
    cases i with
    | zero =>
      -- all steps stand outside of the new scope
      obtain rfl := Option.some.inj found
      rw [if_pos rfl, painted_concat, first]
      refine congrArg (fun l => Step.paint setup ⟨b, d⟩ (painted setup g l))
        (outside_congr fun s hs => ?_)
      have := bounded s hs
      omega
    | succ j =>
      rw [List.getElem?_cons_succ] at found
      rw [if_neg (Nat.succ_ne_zero j), List.append_nil, layered _ _ found]
      exact congrArg (painted setup g) (outside_congr fun s _ => by omega)
  | closes n depth layers blank =>
    -- the layer was under `n` more scopes, and the same steps stand outside of all of them
    rw [layers, List.getElem?_drop] at found
    have below : outside setup b (n + i) steps = outside setup (Builder.next setup b d) i steps :=
      outside_congr fun s _ => by omega
    rw [layered _ _ found, below]
    split
    · rw [painted_concat, blank]
    · rw [List.append_nil]

/-- After any directives in turn, failed or not, the graphics state without its transforms is what
the steps that stand make of the one at the start. -/
theorem look_after (setup : BuildSetup α) (fresh : Fresh start)
    (ds : List (LocatedDirective α)) :
    (after setup start ds).graphics.look =
      painted setup start.graphics.look (standing setup start ds) := by
  -- the induction needs all layers, since an End brings back any of them
  have layered : Layered setup start.graphics.look (standing setup start ds)
      (after setup start ds) := by
    induction ds using List.reverseRecOn with
    | nil =>
      obtain ⟨settings, pool, rfl⟩ := fresh
      intro i layer found
      cases i with
      | zero => exact (Option.some.inj found).symm
      | succ j => exact absurd found (by simp [layers, initial])
    | append_singleton ds d layered =>
      have reach : Reachable setup (after setup start ds) := (Reachable.fresh fresh).after ds
      rw [standing_concat, after_append]
      exact layered.next (fun s hs => depth_le_of_mem_standing hs) (relook_next reach d)
  have all : outside setup (after setup start ds) 0 (standing setup start ds) =
      standing setup start ds :=
    List.filter_eq_self.2 fun s hs => decide_eq_true (depth_le_of_mem_standing hs)
  have whole := layered 0 _ rfl
  rwa [all] at whole

end Layered

end Builder

end SceneScript
