/-
**A chain on its way up.**

The walk along a chain climbs its spine and gathers arguments. Between two calls it expands what is
inside the arguments of the second one. That changes neither the spine nor the arguments that were
gathered.

* `Underway`: what is true at each call; `Arrived`: what is true at the end;
* `Underway.next`: the spine goes on;
* `Underway.ensured`: what was gathered is there after the arguments of the next call are done;
* `Arrived.back`: having arrived from the next call is having arrived from the call before it.
-/

import IfChains.Proofs.Chain.Scion

namespace IfChains

open IfChains.Walk

namespace LiveTree

variable {start live live' live'' : LiveTree} {root head position member call argument id : NodeId}
  {home home' : NodeId → NodeId} {spent spent' zone : Set NodeId} {path path' : List NodeId}
  {exprs exprs' : List NodeId} {name : String} {usage : Usage} {continuation : Continuation}
  {bound : Nat}

/-- The walk along a chain has come to a call and has gathered some expressions. -/
structure Underway (start live : LiveTree) (root : NodeId) (home : NodeId → NodeId)
    (spent : Set NodeId) (head position : NodeId) (path exprs : List NodeId) : Prop where
  traced : Traced start live root home spent
  spine : start.Spine head position path
  goesOn : ¬start.Ends position
  collected : ∀ expr ∈ exprs, Collected start live path expr
  distinct : exprs.Nodup

/-- The roots of the tree that a chain comes to: what was gathered, what is new, and the arguments of
the calls that were passed since. -/
def sources (live live' : LiveTree) (path path' exprs : List NodeId) : Set NodeId :=
  {id | id ∈ exprs ∨ live.size ≤ id ∨ ∃ call ∈ path', call ∉ path ∧ live'.Argument call id}

/-- The walk along a chain has come to its end and made an expression. If the chain is not spent, the
expression can be put in its place. -/
structure Arrived (start live live' : LiveTree) (root : NodeId) (zone : Set NodeId)
    (home' : NodeId → NodeId) (spent spent' : Set NodeId) (head : NodeId)
    (path path' exprs : List NodeId) (result : Expansion.ChainResult) : Prop where
  traced : Traced start live' root home' spent'
  ranges : Ranges start zone live.size live spent live' spent'
  spine : start.Spine head result.top path'
  ends : start.Ends result.top
  longer : path ⊆ path'
  kept : ∀ call ∈ path, ∀ argument, live.Argument call argument → live'.Argument call argument
  fresh : live.size ≤ result.expr
  unplaced : Unplaced start live' result.expr
  graft : (∀ id ∈ path', id ∉ spent') → ∃ tree, tree.tag = result.expr ∧
    Graft start live' spent' path' (sources live live' path path' exprs) tree

section Next

/-- Whether a call of a member ends a chain. -/
theorem ends_iff (isCall : live.label call = .call) (callee : live.having .func call = [member])
    (label : live.label member = .member name usage)
    (named : Continuation.ofKeyword? name = some continuation) :
    live.Ends call ↔ live.having .args call = [] ∧ continuation.isTerminal = true := by
  constructor
  · rintro ⟨-, arguments, member', name', usage', continuation', callee', label', named', terminal⟩
    obtain rfl : member = member' := by simpa using callee.symm.trans callee'
    obtain ⟨rfl, -⟩ : name = name' ∧ usage = usage' := by simpa using label.symm.trans label'
    obtain rfl := Option.some.inj (named.symm.trans named')
    exact ⟨arguments, terminal⟩
  · rintro ⟨arguments, terminal⟩
    exact ⟨isCall, arguments, member, name, usage, continuation, callee, label, named, terminal⟩

/-- The children of a node in a role have homes in that role. -/
theorem Traced.having_home (traced : Traced start live root home spent) (known : id < start.size)
    (role : Role) : start.having role id = (live.having role id).map home := by
  rw [having, ← traced.slots id known, List.filterMap_map, having, List.map_filterMap]
  congr 1
  funext slot
  simp only [Function.comp_apply]
  split <;> rfl

/-- What is on a spine is not above its last call. -/
theorem Spine.not_mem (spine : start.Spine head position path) (whole : start.Whole)
    (rises : start.Rises position member) (climbs : start.Climbs member call) : call ∉ path :=
  fun among => whole.grounded.not_climbs rises (climbs.trans (spine.climbs among))

/-- **The spine goes on** with what the walk finds above a call. -/
theorem Underway.next
    (underway : Underway start live root home spent head position path exprs)
    (rises : live.Rises position member) (label : live.label member = .member name usage)
    (rises' : live.Rises member call) (isCall : live.label call = .call)
    (callee : live.having .func call = [member]) :
    start.Spine head call (call :: member :: path) ∧ start.label call = .call ∧
      start.having .func call = [member] ∧ start.label member = .member name usage ∧
      start.Rises position member ∧ start.Rises member call := by
  obtain ⟨traced, spine, goesOn, -, -⟩ := underway
  have knownMember := traced.lt_size_of_member label
  have knownCall := traced.lt_size_of_call isCall
  have first := (traced.rises rises).2.1 knownMember
  have second := (traced.rises rises').2.1 knownCall
  rw [traced.old position (spine.lt_size spine.position_mem)] at first
  rw [traced.old member knownMember] at second
  have callee' : start.having .func call = [member] := by
    rw [traced.having_home knownCall, callee, List.map_singleton, traced.old member knownMember]
  have isCall' := (traced.label call knownCall).symm.trans isCall
  have label' := (traced.label member knownMember).symm.trans label
  have slot : (.func, member) ∈ start.slots call :=
    mem_having.mp (callee' ▸ List.mem_singleton_self member)
  exact ⟨spine.step goesOn first ⟨name, usage, label'⟩ second isCall' slot, isCall', callee', label',
    first, second⟩

end Next

section Keeping

theorem Collected.mono (collected : Collected start live path id) (longer : path ⊆ path') :
    Collected start live path' id :=
  collected.imp_left fun ⟨call, onPath, isArgument⟩ => ⟨call, longer onPath, isArgument⟩

/-- What was gathered are nodes. -/
theorem Collected.lt_size (traced : Traced start live root home spent)
    (collected : Collected start live path id) : id < live.size := by
  rcases collected with ⟨call, -, isArgument⟩ | ⟨-, content⟩
  · exact traced.lt_size (traced.placed_argument isArgument)
  · exact lt_size_of_content content

/-- An argument belongs to one call. -/
theorem Traced.call_unique (traced : Traced start live root home spent) (whole : start.Whole)
    {call' : NodeId} (first : live.Argument call id) (second : live.Argument call' id) :
    call = call' :=
  (whole.rises (traced.argument_home first).2).unique (whole.rises (traced.argument_home second).2)

/-- **The arguments of a call on a spine** are there after what is inside the arguments of another
call on it was expanded. -/
theorem Ranges.argument_kept
    (ranges : Ranges start (start.inArguments call) bound live spent live' spent')
    (whole : start.Whole) (traced : Traced start live root home spent)
    (traced' : Traced start live' root home' spent') (spine : start.Spine head position path)
    (among : call ∈ path) {call' : NodeId} (among' : call' ∈ path) (other : call' ≠ call)
    (isArgument : live.Argument call' argument) : live'.Argument call' argument := by
  have known := spine.lt_size among'
  refine ⟨?_, ranges.slot_kept known isArgument.2 ?_⟩
  · rw [traced'.label call' known, ← traced.label call' known]
    exact isArgument.1
  rintro ⟨inner, isInner, climbs⟩
  have isArgument' := traced.argument_home isArgument
  by_cases old : argument < start.size
  · rw [traced.old argument old] at isArgument'
    obtain rfl := spine.eq_of_climbs whole among' among isArgument' isInner climbs
    exact other ((whole.rises isArgument'.2).unique (whole.rises isInner.2))
  · rcases Relation.ReflTransGen.cases_head climbs with rfl | ⟨next, rises, -⟩
    · exact old (whole.rises isInner.2).lt_size
    · exact old rises.lt_size

/-- What was gathered is there after a change that keeps the arguments. -/
theorem Collected.kept (collected : Collected start live path id)
    (ranges : Ranges start zone live.size live spent live' spent')
    (kept : ∀ call ∈ path, ∀ argument, live.Argument call argument → live'.Argument call argument) :
    Collected start live' path id := by
  rcases collected with ⟨call, onPath, isArgument⟩ | ⟨unplaced, content⟩
  · exact Or.inl ⟨call, onPath, kept call onPath id isArgument⟩
  · obtain ⟨unplaced', content'⟩ := ranges.unplaced id (lt_size_of_content content) unplaced
    exact Or.inr ⟨unplaced', content'.trans content⟩

/-- Making nodes keeps the arguments. -/
theorem Grown.argument_kept (grown : Grown live live') (isArgument : live.Argument call argument) :
    live'.Argument call argument := by
  have known := lt_size_of_slot isArgument.2
  exact ⟨(grown.label known).trans isArgument.1, grown.slots known ▸ isArgument.2⟩

end Keeping

section Gathering

/-- The children in a role are some of the children. -/
theorem having_sublist (role : Role) (id : NodeId) :
    (live.having role id).Sublist ((live.slots id).map Prod.snd) := by
  rw [having]
  induction live.slots id with
  | nil => exact .slnil
  | cons slot rest ih =>
    rw [List.filterMap_cons, List.map_cons]
    split <;> rename_i taken
    · exact ih.cons _
    · split at taken
      · cases taken
        exact ih.cons_cons _
      · cases taken

variable (underway : Underway start live root home spent head position path exprs)

include underway

/-- Some of what was gathered. -/
theorem Underway.subperm (fewer : exprs'.Subperm exprs) :
    Underway start live root home spent head position path exprs' := by
  obtain ⟨same, perm, sublist⟩ := fewer
  refine ⟨underway.traced, underway.spine, underway.goesOn, fun expr member => ?_,
    perm.nodup_iff.mp (underway.distinct.sublist sublist)⟩
  exact underway.collected expr (sublist.subset (perm.symm.subset member))

/-- The arguments of the next call are new to what was gathered. -/
theorem Underway.argument_new (whole : start.Whole) (fresh : call ∉ path)
    (isArgument : live.Argument call argument) : argument ∉ exprs := by
  intro member
  rcases underway.collected argument member with ⟨call', onPath, other⟩ | ⟨unplaced, -⟩
  · exact fresh (underway.traced.call_unique whole other isArgument ▸ onPath)
  · exact underway.traced.placed_argument isArgument unplaced

/-- **What was gathered is there** after the arguments of the next call are done. -/
theorem Underway.ensured (whole : start.Whole)
    (spine : start.Spine head call (call :: member :: path)) (fresh : call ∉ path)
    (traced : Traced start live' root home' spent')
    (ranges : Ranges start (start.inArguments call) live.size live spent live' spent') :
    Underway start live' root home' spent' head position path exprs ∧
      ∀ call' ∈ path, ∀ argument, live.Argument call' argument → live'.Argument call' argument := by
  have kept : ∀ call' ∈ path, ∀ argument, live.Argument call' argument →
      live'.Argument call' argument := by
    intro call' onPath argument isArgument
    exact ranges.argument_kept whole underway.traced traced spine List.mem_cons_self
      (List.mem_cons_of_mem _ (List.mem_cons_of_mem _ onPath)) (fun same => fresh (same ▸ onPath))
      isArgument
  exact ⟨⟨traced, underway.spine, underway.goesOn,
    fun expr among => (underway.collected expr among).kept ranges kept, underway.distinct⟩, kept⟩

/-- **At the next call its arguments are gathered.** -/
theorem Underway.gather (whole : start.Whole)
    (spine : start.Spine head call (call :: member :: path)) (fresh : call ∉ path)
    (goesOn : ¬start.Ends call) (isCall : live.label call = .call) :
    Underway start live root home spent head call (call :: member :: path)
      (exprs ++ live.having .args call) := by
  have isArgument : ∀ argument ∈ live.having .args call, live.Argument call argument :=
    fun argument among => ⟨isCall, mem_having.mp among⟩
  have placed : ¬Unplaced start live call := fun unplaced =>
    Nat.not_lt_of_le unplaced.1 (underway.traced.lt_size_of_call isCall)
  refine ⟨underway.traced, spine, goesOn, fun expr among => ?_, ?_⟩
  · rcases List.mem_append.mp among with old | new
    · exact (underway.collected expr old).mono fun id onPath =>
        List.mem_cons_of_mem _ (List.mem_cons_of_mem _ onPath)
    · exact Or.inl ⟨call, List.mem_cons_self, isArgument expr new⟩
  · rw [List.nodup_append']
    refine ⟨underway.distinct,
      (underway.traced.slots_nodup whole placed).sublist (having_sublist .args call),
      fun argument old new => ?_⟩
    exact underway.argument_new whole fresh (isArgument argument new) old

/-- **The value of a branch that has none** may be gathered once it is made. -/
theorem Underway.undefined : Underway start (live.push (.constant .none) none []).2 root home spent
    head position path (exprs ++ [live.size]) := by
  have adds : Adds live (live.push (.constant .none) none []).2 := adds_push (by simp)
  have grown := adds.grown
  refine ⟨underway.traced.adds adds, underway.spine, underway.goesOn, fun expr among => ?_, ?_⟩
  · rcases List.mem_append.mp among with old | new
    · rcases underway.collected expr old with ⟨call, onPath, isArgument⟩ | ⟨unplaced, content⟩
      · exact Or.inl ⟨call, onPath, grown.argument_kept isArgument⟩
      · exact Or.inr ⟨grown.unplaced_iff.mpr unplaced,
          (grown.content expr (lt_size_of_content content)).trans content⟩
    · obtain rfl := List.mem_singleton.mp new
      refine Or.inr ⟨⟨underway.traced.size, ?_⟩, content?_push_new ..⟩
      rw [grown.parent]
      exact parent?_of_size_le (Nat.le_refl _)
  · rw [List.nodup_append']
    refine ⟨underway.distinct, List.nodup_singleton _, fun expr old new => ?_⟩
    obtain rfl := List.mem_singleton.mp new
    exact Nat.lt_irrefl _ ((underway.collected live.size old).lt_size underway.traced)

end Gathering

section Arriving

variable {state : WalkState} {condition : NodeId} {branches : BranchSet NodeId}
  {top : NodeId}

/-- **A conditional expression is made at the end of a chain**, above trees that share nothing. -/
theorem exists_arrived (parts : NodeId → Set NodeId) (whole : start.Whole)
    (traced : Traced start state.live root home' spent')
    (ranges : Ranges start zone live.size live spent state.live spent')
    (spine : start.Spine head top path') (ends : start.Ends top) (longer : path ⊆ path')
    (kept : ∀ call ∈ path, ∀ argument, live.Argument call argument →
      state.live.Argument call argument)
    (each : (∀ id ∈ path', id ∉ spent') → ∀ expr ∈ condition :: branches.exprs,
      ∃ tree, tree.tag = expr ∧ Graft start state.live spent' path' (parts expr) tree)
    (distinct : (condition :: branches.exprs).Nodup)
    (apart : ∀ one ∈ condition :: branches.exprs, ∀ two ∈ condition :: branches.exprs,
      one ≠ two → Disjoint (parts one) (parts two))
    (wider : ∀ expr ∈ condition :: branches.exprs,
      parts expr ⊆ sources live state.live path path' exprs) :
    ∃ id state', (Synthesis.conditional branches condition).outcome state = (.ok id, state') ∧
      Arrived start live state'.live root zone home' spent spent' head path path' exprs
        ⟨top, id⟩ := by
  obtain ⟨id, state', outcome, adds, fresh, -⟩ := @exists_conditional state branches condition
  have grown := adds.grown
  refine ⟨id, state', outcome, traced.adds adds,
    ranges.trans (adds.ranges traced ranges.size), spine, ends, longer,
    fun call onPath argument isArgument => grown.argument_kept (kept call onPath argument isArgument),
    Nat.le_trans ranges.size fresh, ⟨Nat.le_trans traced.size fresh, ?_⟩, fun unspent => ?_⟩
  · rw [grown.parent]
    exact parent?_of_size_le fresh
  · obtain ⟨tree, state'', outcome', graft⟩ :=
      graft_conditional whole traced spine unspent (each unspent) distinct apart
    obtain ⟨same, rfl⟩ := Prod.mk.inj (outcome.symm.trans outcome')
    refine ⟨tree, (Except.ok.inj same).symm, graft.grown (.refl _) ?_⟩
    rintro other (⟨expr, among, inside⟩ | new)
    · rcases wider expr among inside with old | fresh' | ⟨call, onPath, offPath, isArgument⟩
      · exact Or.inl old
      · exact Or.inr (Or.inl fresh')
      · exact Or.inr (Or.inr ⟨call, onPath, offPath, grown.argument_kept isArgument⟩)
    · exact Or.inr (Or.inl (Nat.le_trans ranges.size new))

/-- **The walk arrives** at a call that ends the chain. -/
theorem Underway.exists_arrived (whole : start.Whole)
    (underway : Underway start state.live root home spent head position path
      (condition :: branches.exprs))
    (spine : start.Spine head call (call :: member :: path)) (ends : start.Ends call) :
    ∃ id state', (Synthesis.conditional branches condition).outcome state = (.ok id, state') ∧
      Arrived start state.live state'.live root zone home spent spent head path
        (call :: member :: path) (condition :: branches.exprs) ⟨call, id⟩ := by
  have longer : path ⊆ call :: member :: path := fun id onPath =>
    List.mem_cons_of_mem _ (List.mem_cons_of_mem _ onPath)
  refine LiveTree.exists_arrived (fun expr => {expr}) whole underway.traced .refl spine ends longer
    (fun _ _ _ isArgument => isArgument) (fun unspent expr among =>
      graft_collected underway.traced spine unspent ((underway.collected expr among).mono longer))
    underway.distinct (fun one _ two _ other => Set.disjoint_singleton.mpr other)
    fun expr among => ?_
  rintro id rfl
  exact Or.inl among

section Nested

variable {result : Expansion.ChainResult} (whole : start.Whole)
  (underway : Underway start live root home spent head position path (condition :: branches.exprs))
  (fresh : call ∉ path) (isArgument : live.Argument call argument)
  (nested : Arrived start live live' root zone home' spent spent' head (call :: member :: path)
    path' [argument] result)

include nested in
/-- What was gathered before a conditional of its own is there when that one is made. -/
theorem Arrived.kept_below : ∀ call ∈ path, ∀ argument, live.Argument call argument →
    live'.Argument call argument := fun call onPath =>
  nested.kept call (List.mem_cons_of_mem _ (List.mem_cons_of_mem _ onPath))

include whole underway fresh isArgument nested

/-- What was gathered before a conditional of its own is not in that one. -/
theorem Underway.not_mem_sources {expr : NodeId} (among : expr ∈ condition :: branches.exprs) :
    expr ≠ result.expr ∧ expr ∉ sources live live' (call :: member :: path) path' [argument] := by
  have collected := underway.collected expr among
  have known := collected.lt_size underway.traced
  refine ⟨fun same => Nat.not_lt_of_le nested.fresh (same ▸ known), ?_⟩
  rintro (here | fresh' | ⟨call', -, offPath, isArgument'⟩)
  · obtain rfl := List.mem_singleton.mp here
    exact underway.argument_new whole fresh isArgument among
  · exact Nat.not_lt_of_le fresh' known
  · rcases collected.kept nested.ranges nested.kept_below with ⟨call'', onPath, other⟩ | unplaced
    · have same := nested.traced.call_unique whole isArgument' other
      exact offPath (same ▸ List.mem_cons_of_mem _ (List.mem_cons_of_mem _ onPath))
    · exact nested.traced.placed_argument isArgument' unplaced.1

end Nested

/-- What the expressions of a conditional are made of, one of them of some nodes and each other one of
itself. -/
def partsOf (result : NodeId) (inner : Set NodeId) : NodeId → Set NodeId :=
  Function.update (fun expr => {expr}) result inner

/-- **The walk arrives with the chain that a conditional of its own begins**, which it has climbed
from the next call. -/
theorem Arrived.exists_arrived {result : Expansion.ChainResult} (whole : start.Whole)
    (underway : Underway start live root home spent head position path
      (condition :: branches.exprs))
    (fresh : call ∉ path) (isArgument : live.Argument call argument)
    (nested : Arrived start live state.live root zone home' spent spent' head
      (call :: member :: path) path' [argument] result) :
    ∃ id state', (Synthesis.conditional (branches.replaceAlternate result.expr) condition).outcome
        state = (.ok id, state') ∧
      Arrived start live state'.live root zone home' spent spent' head path path'
        (condition :: branches.exprs) ⟨result.top, id⟩ := by
  have longer : path ⊆ path' := fun id onPath =>
    nested.longer (List.mem_cons_of_mem _ (List.mem_cons_of_mem _ onPath))
  have split : condition :: (branches.replaceAlternate result.expr).exprs =
      (condition :: branches.consequent) ++ [result.expr] := rfl
  have older : (condition :: branches.consequent).Sublist (condition :: branches.exprs) :=
    (List.sublist_append_left _ _).cons_cons condition
  have outside : ∀ expr ∈ condition :: branches.consequent, expr ≠ result.expr ∧
      expr ∉ sources live state.live (call :: member :: path) path' [argument] := fun expr among =>
    underway.not_mem_sources whole fresh isArgument nested (older.subset among)
  -- The expressions are made of themselves but for the last one.
  generalize inner_eq : sources live state.live (call :: member :: path) path' [argument] = inner
    at outside
  have parts_old : ∀ expr ∈ condition :: branches.consequent,
      partsOf result.expr inner expr = {expr} := fun expr among =>
    Function.update_of_ne (outside expr among).1 _ _
  have parts_new : partsOf result.expr inner result.expr = inner := Function.update_self ..
  refine LiveTree.exists_arrived (partsOf result.expr inner) whole nested.traced nested.ranges
    nested.spine nested.ends longer nested.kept_below (fun unspent => ?each) ?distinct
    (fun one first two second other => ?apart) ?wider
  case each =>
    rw [split, List.forall_mem_append, List.forall_mem_singleton, parts_new]
    refine ⟨fun expr among => ?_, inner_eq ▸ nested.graft unspent⟩
    rw [parts_old expr among]
    have collected :=
      (underway.collected expr (older.subset among)).kept nested.ranges nested.kept_below
    exact graft_collected nested.traced nested.spine unspent (collected.mono longer)
  case distinct =>
    rw [split, List.nodup_append']
    refine ⟨underway.distinct.sublist older, List.nodup_singleton _, fun expr old new => ?_⟩
    exact (outside expr old).1 (List.mem_singleton.mp new)
  case apart =>
    have separate : ∀ expr ∈ condition :: branches.consequent, Disjoint
        (partsOf result.expr inner expr) (partsOf result.expr inner result.expr) := by
      intro expr among
      rw [parts_old expr among, parts_new]
      exact Set.disjoint_singleton_left.mpr (outside expr among).2
    rw [split, List.mem_append, List.mem_singleton] at first second
    rcases first with old | rfl <;> rcases second with old' | rfl
    · rw [parts_old one old, parts_old two old']
      exact Set.disjoint_singleton.mpr other
    · exact separate one old
    · exact (separate two old').symm
    · exact absurd rfl other
  case wider =>
    rw [split, List.forall_mem_append, List.forall_mem_singleton, parts_new]
    refine ⟨fun expr among => ?_, ?_⟩
    · rw [parts_old expr among, Set.singleton_subset_iff]
      exact Or.inl (older.subset among)
    · rw [← inner_eq]
      rintro id (here | new | ⟨call', onPath, offPath, isArgument'⟩)
      · obtain rfl := List.mem_singleton.mp here
        exact Or.inr (Or.inr ⟨call, nested.longer List.mem_cons_self, fresh,
          nested.kept call List.mem_cons_self id isArgument⟩)
      · exact Or.inr (Or.inl new)
      · exact Or.inr (Or.inr ⟨call', onPath, fun old => offPath
          (List.mem_cons_of_mem _ (List.mem_cons_of_mem _ old)), isArgument'⟩)

end Arriving

/-- **Having arrived from the next call** is having arrived from the call before it. -/
theorem Arrived.back {result : Expansion.ChainResult} {path'' : List NodeId} {spent'' : Set NodeId}
    {home'' : NodeId → NodeId}
    (arrived : Arrived start live' live'' root zone home'' spent' spent'' head path' path'' exprs'
      result)
    (ranges : Ranges start zone live.size live spent live' spent') (longer : path ⊆ path')
    (kept : ∀ call ∈ path, ∀ argument, live.Argument call argument → live'.Argument call argument)
    (gathered : ∀ expr ∈ exprs', expr ∈ exprs ∨ live.size ≤ expr ∨
      ∃ call ∈ path', call ∉ path ∧ live'.Argument call expr) :
    Arrived start live live'' root zone home'' spent spent'' head path path'' exprs result := by
  have wider : sources live' live'' path' path'' exprs' ⊆ sources live live'' path path'' exprs := by
    rintro id (member | fresh | ⟨call, onPath, offPath, isArgument⟩)
    · rcases gathered id member with old | fresh | ⟨call, onPath, offPath, isArgument⟩
      · exact Or.inl old
      · exact Or.inr (Or.inl fresh)
      · exact Or.inr (Or.inr ⟨call, arrived.longer onPath, offPath,
          arrived.kept call onPath id isArgument⟩)
    · exact Or.inr (Or.inl (Nat.le_trans ranges.size fresh))
    · exact Or.inr (Or.inr ⟨call, onPath, fun old => offPath (longer old), isArgument⟩)
  refine ⟨arrived.traced, ranges.trans (arrived.ranges.mono subset_rfl ranges.size), arrived.spine,
    arrived.ends, List.Subset.trans longer arrived.longer, fun call onPath argument isArgument =>
      arrived.kept call (longer onPath) argument (kept call onPath argument isArgument),
    Nat.le_trans ranges.size arrived.fresh, arrived.unplaced, fun unspent => ?_⟩
  obtain ⟨tree, tag, graft⟩ := arrived.graft unspent
  exact ⟨tree, tag, graft.grown (.refl _) wider⟩

end LiveTree

end IfChains
