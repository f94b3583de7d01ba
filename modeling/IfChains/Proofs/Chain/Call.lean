/-
**The calls and the members of a chain.**

What the checks and the walk through the arguments come to at a call whose callee is in the hole of
its frame, and how the member and the call add to the chain that is read.

* `meets_nextCall`: climbing from a call to the call of a member of it;
* `meets_ensureCall`: expanding what is inside the arguments keeps the frame alike;
* `upTo?_next`, `ofTree?_next`: the chain up to the next call, and the chain that it ends.
-/

import IfChains.Proofs.Chain.Arguments

namespace IfChains

open IfChains.Tree IfChains.Walk

namespace NumberedTree

variable {listed : List NodeId} {state state' : WalkState} {outer above : Context NodeId}
  {call call' member : Frame NodeId} {position inside : NumberedTree}

section Frames

/-- A call of what is in its hole. -/
structure Calls (frame : Frame NodeId) : Prop where
  label : frame.label = .call
  role : frame.role = .func

/-- The callee of a conforming call is in its hole alone. -/
theorem Calls.others_func (calls : Calls call) (conforms : (call.fill inside).Conforms) :
    inRole .func call.before = [] ∧ inRole .func call.after = [] := by
  have field : (Role.func, Arity.one) ∈ (call.fill inside).label.fields := by
    have label : (call.fill inside).label = .call := calls.label
    rw [label]
    exact List.mem_cons_self
  obtain ⟨callee, alone⟩ := conforms.exists_single field
  rw [Frame.fill, having_node, inRole_append, calls.role, inRole_cons_same] at alone
  have lengths := congrArg List.length alone
  rw [List.length_append, List.length_cons, List.length_singleton] at lengths
  exact ⟨List.length_eq_zero_iff.mp (by omega), List.length_eq_zero_iff.mp (by omega)⟩

/-- A conforming call is read as a call. -/
theorem Calls.isCall (calls : Calls call) (conforms : (call.fill inside).Conforms) :
    Chain.IsCall call :=
  ⟨calls.label, calls.role, (calls.others_func conforms).1⟩

/-- The arguments of a call. -/
theorem Calls.having_args (calls : Calls call) (inside : NumberedTree) :
    (call.fill inside).having .args = call.others .args :=
  Chain.having_fill inside (by rw [calls.role]; exact Role.noConfusion)

/-- The keywords of a call. -/
theorem Calls.having_keywords (calls : Calls call) (inside : NumberedTree) :
    (call.fill inside).having .keywords = call.others .keywords :=
  Chain.having_fill inside (by rw [calls.role]; exact Role.noConfusion)

/-- A call without keywords has its arguments for its other children. -/
theorem Calls.role_of_mem (calls : Calls call) (conforms : (call.fill inside).Conforms)
    (keywords : call.others .keywords = []) {child : Role × NumberedTree}
    (among : child ∈ call.before ++ call.after) : child.1 = .args := by
  have beneath : child ∈ (call.fill inside).children := by
    rcases List.mem_append.mp among with before | after
    · exact List.mem_append_left _ before
    · exact List.mem_append_right _ (List.mem_cons_of_mem _ after)
  have field := conforms.roles child beneath
  have label : (call.fill inside).label = .call := calls.label
  obtain ⟨role, tree⟩ := child
  rw [label] at field
  rcases List.mem_cons.mp field with rfl | field
  · obtain ⟨before, after⟩ := calls.others_func conforms
    have absent : tree ∈ inRole .func (call.before ++ call.after) := mem_inRole.mpr among
    rw [inRole_append, before, after] at absent
    exact absurd absent List.not_mem_nil
  · rcases List.mem_cons.mp field with rfl | field
    · rfl
    · obtain rfl : role = .keywords := List.mem_singleton.mp field
      have absent : tree ∈ call.others .keywords := mem_inRole.mpr among
      rw [keywords] at absent
      exact absurd absent List.not_mem_nil

/-- A conforming member has one child. -/
theorem member_fill {name : String} {usage : Usage} (label : member.label = .member name usage)
    (conforms : (member.fill position).Conforms) :
    member.fill position = .node member.tag (.member name usage) [(.value, position)] := by
  have labels : (member.fill position).label = .member name usage := label
  have roles : ∀ child ∈ (member.fill position).children, child.1 = .value := by
    intro child among
    have field := conforms.roles child among
    rw [labels] at field
    exact List.mem_singleton.mp field
  have all : (member.fill position).having .value =
      (member.fill position).children.map Prod.snd := by
    rw [Tree.having, ← List.filterMap_eq_map]
    refine List.filterMap_congr fun child among => ?_
    rw [if_pos (roles child among)]
    rfl
  have field : (Role.value, Arity.one) ∈ (member.fill position).label.fields := by
    rw [labels]
    exact List.mem_cons_self
  obtain ⟨only, alone⟩ := conforms.exists_single field
  rw [all, Frame.fill, Tree.children, List.map_append, List.map_cons] at alone
  have lengths := congrArg List.length alone
  rw [List.length_append, List.length_cons, List.length_singleton, List.length_map,
    List.length_map] at lengths
  have before : member.before = [] := List.length_eq_zero_iff.mp (by omega)
  have after : member.after = [] := List.length_eq_zero_iff.mp (by omega)
  have role : member.role = .value :=
    roles (member.role, position) (List.mem_append_right _ List.mem_cons_self)
  rw [Frame.fill, before, after, role, label]
  rfl

end Frames

section Reading

variable {chain : Chain NodeId NumberedTree} {name : String} {usage : Usage}
  {continuation : Continuation}

/-- **The chain up to the next call.** -/
theorem upTo?_next (calls : Calls call) (conforms : (call.fill (member.fill position)).Conforming)
    (label : member.label = .member name usage)
    (named : Continuation.ofKeyword? name = some continuation)
    (keywords : call.others .keywords = []) (reading : Chain.upTo? position = some chain) :
    Chain.upTo? (call.fill (member.fill position)) =
      (Step.of? continuation (call.others .args)).map chain.goOn := by
  obtain ⟨here, beneath⟩ := conforming_node.mp conforms
  have below : (member.fill position).Conforms :=
    conforms _ (mem_preorder_fill [call] (member.fill position))
  rw [Chain.upTo?_call (calls.isCall here), member_fill label below, Chain.callee?_member, reading,
    named, keywords]
  rfl

/-- **The chain that the next call ends.** -/
theorem ofTree?_next (calls : Calls call) (conforms : (call.fill (member.fill position)).Conforming)
    (label : member.label = .member name usage)
    (named : Continuation.ofKeyword? name = some continuation)
    (terminal : continuation.isTerminal = true) (arguments : call.others .args = [])
    (keywords : call.others .keywords = []) (reading : Chain.upTo? position = some chain) :
    Chain.ofTree? (call.fill (member.fill position)) = some chain := by
  obtain ⟨here, beneath⟩ := conforming_node.mp conforms
  have below : (member.fill position).Conforms :=
    conforms _ (mem_preorder_fill [call] (member.fill position))
  rw [Chain.ofTree?_call (calls.isCall here), member_fill label below, Chain.callee?_member,
    reading, named, arguments, keywords]
  exact if_pos terminal

/-- Climbing further ends a chain if the call is as the continuation wants it. -/
theorem endsChain_next (label : member.label = .member name usage)
    (named : Continuation.ofKeyword? name = some continuation) :
    Context.endsChain (member :: call :: above) = (call.isPlainCall &&
      continuation.admits (call.others .args) && (continuation.isTerminal || above.endsChain)) := by
  rw [Context.endsChain, label]
  simp only [named]

/-- A call of what is in its hole is plain if it has no keywords. -/
theorem Calls.isPlainCall_iff (calls : Calls call) :
    call.isPlainCall = true ↔ call.others .keywords = [] := by
  rw [Frame.isPlainCall, Bool.and_eq_true, decide_eq_true_iff, List.isEmpty_iff]
  exact and_iff_right ⟨calls.label, calls.role⟩

/-- What does not call what is in its hole is no plain call. -/
theorem isPlainCall_eq_false (other : ¬(call.label = .call ∧ call.role = .func)) :
    call.isPlainCall = false := by
  rw [Frame.isPlainCall, decide_eq_false other, Bool.false_and]

end Reading

section Walking

variable {depth : Nat} {resolve : Expansion.Resolver} {β : Type}
  {returns : β → WalkState → Prop} {stops : WalkFault → WalkState → Prop}

/-- What is not a member does not continue a chain. -/
theorem endsChain_eq_false (other : ¬∃ name usage, member.label = .member name usage) :
    Context.endsChain (member :: above) = false := by
  cases above with
  | nil => rfl
  | cons call above =>
    rw [Context.endsChain]
    split
    · exact absurd ⟨_, _, ‹_›⟩ other
    · rfl

/-- Climbing to a call of what is in its hole, or failing. -/
theorem meets_invocation {around : Context NodeId} (label : String) {next : NodeId → Walk β}
    (sound : Sound listed state (Context.fill around inside))
    (passed : ∀ call above, around = call :: above → Calls call →
      Meets (next call.tag) state returns stops)
    (failed : (∀ call above, around = call :: above → ¬Calls call) →
      ∀ fault location, stops (.shape fault location) state) :
    Meets (do
      let call ← Shape.invocation (← parentOf inside.tag) inside.tag label
      next call) state returns stops := by
  refine meets_bind_ok (outcome_parentOf inside.tag) ?_
  cases around with
  | nil =>
    have rootless : state.live.parent? inside.tag = none := sound.rootless
    rw [rootless]
    exact meets_failAt _ _ (failed fun call above same => nomatch same)
  | cons call above =>
    have beneath : call.fill inside ∈ (Context.fill (call :: above) inside).preorder :=
      mem_preorder_fill above _
    have distinct := sound.distinct.sublist (tags_sublist beneath)
    rw [sound.linked.parent?_hole]
    refine (checks_invocation label (sound.reads.of_mem beneath) (sound.conforming _ beneath)
      distinct).bind (fun both => passed call above rfl ⟨both.1, both.2⟩) fun other => failed ?_
    rintro call above ⟨rfl⟩ calls
    exact other ⟨calls.label, calls.role⟩

/-- **Climbing from a call to the call of a member of it**, or failing. -/
theorem meets_nextCall {around : Context NodeId} (entry : String)
    {next : Continuation → NodeId → Walk β}
    (sound : Sound listed state (Context.fill around position))
    (passed : ∀ member call above name usage continuation, around = member :: call :: above →
      member.label = .member name usage → Continuation.ofKeyword? name = some continuation →
      Calls call → Meets (next continuation call.tag) state returns stops)
    (failed : around.endsChain = false → ∀ fault location, stops (.shape fault location) state) :
    Meets (do
      let member ← Shape.nextMember entry (← parentOf position.tag) position.tag
      let continuation ← Shape.continuationOf entry member
      let call ← Shape.invocation (← parentOf member) member ("member " ++ continuation.keyword)
      next continuation call) state returns stops := by
  refine meets_bind_ok (outcome_parentOf position.tag) ?_
  cases around with
  | nil =>
    have rootless : state.live.parent? position.tag = none := sound.rootless
    rw [rootless]
    exact meets_failAt _ _ (failed rfl)
  | cons member around =>
    have beneath : member.fill position ∈ (Context.fill (member :: around) position).preorder :=
      mem_preorder_fill around _
    have reads : state.live.Reads (member.fill position) := sound.reads.of_mem beneath
    have checks := @checks_nextMember state (member.fill position) entry (some position.tag) reads
    rw [sound.linked.parent?_hole]
    refine checks.bind ?_ fun other => failed (endsChain_eq_false other)
    rintro ⟨name, usage, label⟩
    refine @meets_continuationOf state (member.fill position) _ _ _ _ _ _ entry reads label
      (fun continuation named => ?_) fun unknown => failed ?_
    · refine @meets_invocation _ state (member.fill position) β returns stops around _ _ sound
        (fun call above same calls => ?_) fun none => failed ?_
      · exact passed member call above name usage continuation (same ▸ rfl) label named calls
      · cases around with
        | nil => rfl
        | cons call above =>
          rw [endsChain_next label named, isPlainCall_eq_false fun both =>
            none call above rfl ⟨both.1, both.2⟩]
          rfl
    · cases around with
      | nil => rfl
      | cons call above =>
        have labels : member.label = .member name usage := label
        rw [Context.endsChain, labels]
        simp only [unknown]

/-- A call that wants a single argument, and what follows. -/
theorem Calls.meets_singleArgument {next : NodeId → Walk β} {id : NodeId} (calls : Calls call)
    (label : String) (reads : state.live.Reads (call.fill inside))
    (conforms : (call.fill inside).Conforms) (tag : call.tag = id)
    (passed : ∀ argument, call.others .args = [argument] → argument.isStarred = false →
      Meets (next argument.tag) state returns stops)
    (failed : isSingle (call.others .args) = false →
      ∀ fault location, stops (.shape fault location) state) :
    Meets (do
      let argument ← Shape.singleArgument id label
      Shape.expressionLike argument id label
      next argument) state returns stops := by
  have met := @Walk.meets_singleArgument state (call.fill inside) β returns stops next label reads
    conforms calls.label
  have tags : (call.fill inside).tag = id := tag
  rw [calls.having_args, tags] at met
  exact met passed failed

/-- A call that wants no keywords. -/
theorem Calls.checks_noKeywords {id : NodeId} (calls : Calls call) (label : String)
    (reads : state.live.Reads (call.fill inside)) (tag : call.tag = id) :
    Checks (Shape.noKeywords id label) state (call.others .keywords = []) () := by
  have checks := @Walk.checks_noKeywords state (call.fill inside) label reads calls.label
  have tags : (call.fill inside).tag = id := tag
  rwa [calls.having_keywords, tags] at checks

/-- **Expanding what is inside the arguments of a call** keeps its frame alike. -/
theorem meets_ensureCall (resolves : Resolves listed depth resolve) {remaining : List NodeId}
    (short : remaining.length ≤ depth) (subset : remaining ⊆ listed) (calls : Calls call)
    (sound : Sound listed state (Context.fill outer (call.fill inside)))
    (covered : ∀ argument ∈ call.others .args, ∀ id ∈ argument.tags, id ∈ listed → id ∈ remaining) :
    Meets (Expansion.ensureArguments resolve call.tag remaining) state
      (fun _ state' => ∃ call' : Frame NodeId, call'.tag = call.tag ∧ Calls call' ∧
        Frame.Alike call call' ∧
        Rewrites listed outer state (call.fill inside) state' (call'.fill inside) ∧
        ∀ argument ∈ call'.others .args, Unlisted listed argument)
      (Blames listed state (Context.fill outer (call.fill inside))) := by
  obtain ⟨tag, label, before, role, after⟩ := call
  obtain ⟨rfl, rfl⟩ : label = .call ∧ role = .func := ⟨calls.label, calls.role⟩
  have arguments : inRole .args (before ++ (Role.func, inside) :: after) =
      inRole .args (before ++ after) := by
    rw [inRole_append, inRole_append, inRole_cons_other _ _ Role.noConfusion]
  have sound' : Sound listed state
      (Context.fill outer (.node tag .call (before ++ (.func, inside) :: after))) := sound
  refine (meets_ensureArguments resolves short subset sound' ?_).imp ?_ fun _ _ blames => blames
  · rw [arguments]
    exact covered
  · rintro - state' ⟨children, refined, rewrites, clean⟩
    obtain ⟨before', rest, refinedBefore, refinedRest, rfl⟩ := exists_append_of_forall₂ refined
    obtain ⟨hole, after', same, refinedAfter, rfl⟩ := List.forall₂_cons_left_iff.mp refinedRest
    obtain ⟨role, tree⟩ := hole
    obtain rfl : Role.func = role := same.role
    obtain rfl : inside = tree := same.other Role.noConfusion
    have alike : ∀ {forest forest' : Forest NodeId}, Refined listed forest forest' →
        SameRoles forest forest' := fun refined =>
      refined.imp fun _ _ same => ⟨same.role, same.starred⟩
    refine ⟨⟨tag, .call, before', .func, after'⟩, rfl, ⟨rfl, rfl⟩,
      ⟨rfl, rfl, alike refinedBefore, alike refinedAfter⟩, rewrites, fun argument member => ?_⟩
    refine clean argument ?_
    rw [inRole_append, inRole_cons_other _ _ Role.noConfusion, ← inRole_append]
    exact member

end Walking

section Clean

/-- A node that is neither a name nor anything like it is not listed. -/
theorem Sound.not_mem_of_label {tree : NumberedTree} (sound : Sound listed state tree)
    {node : NumberedTree} (member : node ∈ tree.preorder)
    (other : ∀ name usage, node.label ≠ .name name usage) : node.tag ∉ listed := by
  intro among
  obtain ⟨name, usage, label⟩ := sound.names node.tag among
  exact other name usage ((sound.reads.of_mem member).label.symm.trans label)

/-- **A call without keywords whose arguments hold no listed name** holds none around its callee. -/
theorem unlisted_call (sound : Sound listed state (Context.fill outer (call.fill inside)))
    (calls : Calls call) (keywords : call.others .keywords = [])
    (clean : ∀ argument ∈ call.others .args, Unlisted listed argument) :
    ∀ id ∈ call.tags, id ∉ listed := by
  have beneath : call.fill inside ∈ (Context.fill outer (call.fill inside)).preorder :=
    mem_preorder_fill outer _
  intro id member among
  rcases List.mem_cons.mp member with rfl | others
  · refine sound.not_mem_of_label beneath (fun name usage named => ?_) among
    have label : (call.fill inside).label = .call := calls.label
    exact nomatch label.symm.trans named
  · rw [← tagsIn_append] at others
    obtain ⟨⟨role, argument⟩, inside', deeper⟩ := mem_tagsIn.mp others
    obtain rfl : role = .args :=
      calls.role_of_mem (sound.conforming _ beneath) keywords inside'
    exact clean argument (mem_inRole.mpr inside') id deeper among

/-- The listed names up to the next call are those up to the member. -/
theorem only_next {name : String} {usage : Usage} {head : NodeId}
    (sound : Sound listed state (Context.fill outer (call.fill (member.fill position))))
    (label : member.label = .member name usage) (unlisted : ∀ id ∈ call.tags, id ∉ listed)
    (only : ∀ id ∈ position.tags, id ∈ listed → id = head) :
    ∀ id ∈ (call.fill (member.fill position)).tags, id ∈ listed → id = head := by
  have whole := mem_preorder_fill outer (call.fill (member.fill position))
  have beneath := mem_preorder_trans (mem_preorder_fill [call] (member.fill position)) whole
  have node := member_fill label (sound.conforming _ beneath)
  intro id within among
  rcases (@mem_tags_fill _ [call] (member.fill position) id).mp within with around | inside
  · exact absurd among (unlisted id (List.append_nil call.tags ▸ around))
  · rw [node, tags_node, tagsIn_cons, tagsIn_nil, List.append_nil] at inside
    rcases List.mem_cons.mp inside with rfl | deeper
    · refine absurd among (sound.not_mem_of_label beneath fun name' usage' named => ?_)
      have labels : (member.fill position).label = .member name usage := label
      exact nomatch labels.symm.trans named
    · exact only id deeper among

end Clean

end NumberedTree

end IfChains
