/-
**Which replacements the expansion of a list makes.**

In a program, every replacement puts the conditional expression of a chain in the place of the call
that ends it, and the head of that chain is noted as expanded. This is read off the recording of the
expansion. A resolver is guarded, so that it stops where it is not good: what is known about resolvers
that are good then applies to the recording step by step.

* `Performed`: a replacement is the expansion of the chain of a head;
* `Accounts`: the noted replacements are those of the heads that have been noted as expanded;
* `follows_guarded`: the recording of a good resolver accounts for what it does;
* `accounts_processAll`: so does the recording of going through a list.
-/

import IfChains.Proofs.Chain.Ending
import IfChains.Proofs.Chain.Program
import IfChains.Proofs.Chain.Recording

namespace IfChains

open IfChains.Tree IfChains.Walk IfChains.Recording

namespace NumberedTree

variable {listed : List NodeId} {state state' : WalkState} {tree tree' : NumberedTree}

section Same

/-- Going up from a node of two trees leads to the root of the first one within the second one. -/
theorem Sound.tag_mem (sound : Sound listed state tree) {context : Context NodeId}
    {inside : NumberedTree} (linked : state.live.Linked (Context.fill context inside))
    (member : inside.tag ∈ tree.tags) : (Context.fill context inside).tag ∈ tree.tags := by
  induction context generalizing inside with
  | nil => exact member
  | cons frame outer ih =>
    refine @ih (frame.fill inside) linked ?_
    have parent := linked.parent?_hole
    obtain ⟨node, among, same⟩ := exists_of_mem_tags member
    obtain ⟨context', rfl⟩ := Tree.exists_fill among
    cases context' with
    | nil =>
      have rootless := sound.rootless
      rw [fill_nil, same, parent] at rootless
      exact nomatch rootless
    | cons frame' outer' =>
      have parent' := sound.linked.parent?_hole
      rw [same, parent] at parent'
      have frames : (frame.fill inside).tag = frame'.tag := Option.some.inj parent'
      rw [frames]
      exact mem_tags_fill.mpr (Or.inl (List.mem_append_left _ List.mem_cons_self))

/-- **Two trees of a state that share a node are the same.** -/
theorem Sound.eq_of_mem (sound : Sound listed state tree) (sound' : Sound listed state tree')
    {id : NodeId} (member : id ∈ tree.tags) (member' : id ∈ tree'.tags) : tree' = tree := by
  have top : tree.tag ∈ tree'.tags := by
    obtain ⟨node, among, rfl⟩ := exists_of_mem_tags member
    obtain ⟨context, rfl⟩ := Tree.exists_fill among
    exact sound'.tag_mem sound.linked member'
  obtain ⟨node, among, same⟩ := exists_of_mem_tags top
  obtain ⟨context, rfl⟩ := Tree.exists_fill among
  cases context with
  | nil =>
    rw [← sound.reads.toTree sound.distinct, ← same]
    exact (sound'.reads.toTree sound'.distinct).symm
  | cons frame outer =>
    have parent := sound'.linked.parent?_hole
    rw [same, sound.rootless] at parent
    exact nomatch parent

end Same

/-- A replacement puts the conditional expression of a chain in the place of the call that ends it,
in a tree to which the expansion of listed chains has led. -/
def Performed (listed : List NodeId) (tree : NumberedTree) (head : NodeId)
    (replacement : Replacement) : Prop :=
  ∃ context ended expr chain, Reduces listed tree (Context.fill context ended) ∧
    replacement.before.Reads (Context.fill context ended) ∧
    Expansion listed context ended expr chain ∧ chain.head = head ∧
    replacement.old = ended.tag ∧ replacement.new = expr.tag

/-- The noted replacements are those of the heads that have been noted as expanded, in order. -/
def Accounts (listed : List NodeId) (state : WalkState) (log : List Replacement)
    (state' : WalkState) : Prop :=
  ∀ tree, Sound listed state tree → ∃ tree' heads, Sound listed state' tree' ∧
    Reduces listed tree tree' ∧ List.Forall₂ (Performed listed tree) heads log ∧
    state'.processed = heads.reverse ++ state.processed

section Accounts

theorem Performed.after {head : NodeId} {replacement : Replacement}
    (performed : Performed listed tree' head replacement) (reduces : Reduces listed tree tree') :
    Performed listed tree head replacement := by
  obtain ⟨context, ended, expr, chain, reduces', rest⟩ := performed
  exact ⟨context, ended, expr, chain, reduces.trans reduces', rest⟩

theorem ledger_accounts : Ledger (Accounts listed) where
  grown grown same tree sound := ⟨tree, [], sound.grown grown same, .refl, .nil, same⟩
  trans first second tree sound := by
    obtain ⟨tree', heads, sound', reduces, performed, processed⟩ := first tree sound
    obtain ⟨tree'', heads', sound'', reduces', performed', processed'⟩ := second tree' sound'
    refine ⟨tree'', heads ++ heads', sound'', reduces.trans reduces', ?_, ?_⟩
    · exact List.rel_append performed (performed'.imp fun _ _ performed => performed.after reduces)
    · rw [processed', processed, List.reverse_append, List.append_assoc]

/-- **Replacing a chain that is ready** is the expansion of the chain. -/
theorem Ready.accounts {outer inner' : Context NodeId} {reference : NodeId}
    {inside ended expr : NumberedTree} {chain : Chain NodeId NumberedTree} {start after : WalkState}
    (ready : Ready listed outer reference start inside state inner' ended expr chain)
    (replaced : state.live.replace? ended.tag expr.tag = some after.live)
    (processed : after.processed = reference :: state.processed) :
    Accounts listed state [⟨ended.tag, expr.tag, state.live⟩] after := by
  obtain ⟨rewrites, expansion, rfl, loose, distinct, -⟩ := ready
  have sound := rewrites.sound
  rw [← fill_append] at sound
  intro tree soundTree
  have inside : chain.head ∈ (Context.fill (inner' ++ outer) ended).tags :=
    mem_tags_fill.mpr (Or.inr expansion.head_mem)
  have waiting := (sound.pending _ expansion.head).mp inside
  obtain rfl : tree = Context.fill (inner' ++ outer) ended :=
    sound.eq_of_mem soundTree inside ((soundTree.pending _ expansion.head).mpr waiting)
  obtain ⟨live, outcome, sound', -⟩ := sound.replaced expansion loose distinct
  obtain rfl : after.live = live := by
    rw [outcome_replace replaced] at outcome
    exact congrArg (fun result => result.2.live) outcome
  refine ⟨_, [chain.head], sound'.grown (.refl _) processed, ?_, ?_, processed⟩
  · exact .single ⟨_, _, _, _, expansion, rfl, rfl⟩
  · exact .cons ⟨_, _, _, _, .refl, sound.reads, expansion, rfl, rfl, rfl⟩ .nil

end Accounts

section Guarding

/-- The chain of a reference is due: it is in the tree of a state, and the list holds all other
listed names in a walled part of the tree around it. -/
def Due (listed : List NodeId) (depth : Nat) (reference : NodeId) (later : List NodeId)
    (state : WalkState) : Prop :=
  ∃ outer inside, Sound listed state (Context.fill outer inside) ∧ Walled outer ∧
    later.length < depth ∧ later ⊆ listed ∧ reference ∈ listed ∧ reference ∈ inside.tags ∧
    ∀ id ∈ inside.tags, id ∈ listed → id ∈ reference :: later

open Classical in
/-- A resolver that expands the chain of a reference only if it is due. -/
noncomputable def guarded (listed : List NodeId) (depth : Nat) (resolve : Expansion.Resolver) :
    Expansion.Resolver :=
  fun reference later => do
    if Due listed depth reference later (← get) then resolve reference later else throw .endless

variable {depth : Nat} {resolve : Expansion.Resolver} {reference : NodeId} {later : List NodeId}

theorem outcome_guarded (due : Due listed depth reference later state) :
    (guarded listed depth resolve reference later).outcome state =
      (resolve reference later).outcome state := by
  have looks : (get : Walk WalkState).outcome state = (.ok state, state) := rfl
  rw [guarded, outcome_bind_ok looks, if_pos due]

theorem outcome_guarded_of_not_due (early : ¬Due listed depth reference later state) :
    (guarded listed depth resolve reference later).outcome state = (.error .endless, state) := by
  have looks : (get : Walk WalkState).outcome state = (.ok state, state) := rfl
  rw [guarded, outcome_bind_ok looks, if_neg early]
  rfl

/-- A guarded resolver is as good as the resolver. -/
theorem resolves_guarded (resolves : Resolves listed depth resolve) :
    Resolves listed depth (guarded listed depth resolve) := by
  intro reference later state outer inside sound walled short subset known within covered
  rw [Meets, outcome_guarded ⟨outer, inside, sound, walled, short, subset, known, within, covered⟩]
  exact resolves reference later state outer inside sound walled short subset known within covered

end Guarding

section Recorded

variable {depth : Nat} {resolve : Expansion.Resolver} {resolve' : Resolver} {reference : NodeId}
  {later : List NodeId} {entry : String} {after : WalkState} {log log' : List Replacement}

/-- Two walks of which one follows the other, when it is known what the first one comes to. -/
theorem recorded_cases {α : Type} {walk : Walk α} {recording : Recording α}
    {returns : α → WalkState → Prop} {stops : WalkFault → WalkState → Prop}
    (follows : Follows (Accounts listed) walk recording) (met : Meets walk state returns stops)
    (shape : ∀ fault after, stops fault after → ∃ shape location, fault = .shape shape location)
    (log : List Replacement) :
    (∃ value after new, (recording.run log).outcome state = (.ok (value, log ++ new), after) ∧
      returns value after ∧ Accounts listed state new after) ∨
    ∃ fault after, (recording.run log).outcome state = (.error fault, after) := by
  have follows := follows state log
  rw [Meets] at met follows
  split at met
  · rename_i value after same
    rw [same] at follows
    obtain ⟨new, recorded, accounts⟩ := follows
    exact Or.inl ⟨value, after, new, recorded, met, accounts⟩
  · rename_i fault after same
    rw [same] at follows
    obtain ⟨shape, location, rfl⟩ := shape _ _ met
    exact Or.inr ⟨_, _, follows shape location rfl⟩

/-- **The recording of the expansion of one reference accounts for it.** -/
theorem accounts_expandReference (resolves : Resolves listed depth resolve)
    (follows : ∀ reference later, Follows (Accounts listed)
      (guarded listed depth resolve reference later) (resolve' reference later))
    (due : Due listed (depth + 1) reference later state) {value : Bool}
    (recorded : ((expandReference resolve' entry reference later).run log).outcome state =
      (.ok (value, log'), after)) :
    ∃ new, log' = log ++ new ∧ Accounts listed state new after := by
  obtain ⟨outer, inside, sound, walled, short, subset, known, within, covered⟩ := due
  have inTree := mem_tags_of_mem (mem_preorder_fill outer inside) within
  have pending : state.processed.contains reference = false := by
    simpa using (sound.pending reference known).mp inTree
  have reached := meets_reach entry (resolves_guarded resolves) sound walled
    (Nat.le_of_lt_succ short) subset known within covered
  rw [expandReference, run_lift_bind, outcome_bind_ok (outcome_isProcessed reference), pending,
    if_neg Bool.false_ne_true, StateT.run_bind] at recorded
  rcases recorded_cases (follows_reach ledger_accounts follows entry reference later) reached
    (fun _ _ blames => blames.shape) log with
    ⟨⟨call, result⟩, state', new, noted, ⟨inner', ended, expr, chain, rfl, ready⟩, accounts⟩ |
    ⟨fault, state', stopped⟩
  · obtain ⟨live, outcome, -⟩ := ready.replaced
    cases replaced : state'.live.replace? ended.tag expr.tag with
    | none =>
      rw [outcome_replace_none replaced] at outcome
      cases outcome
    | some table =>
      obtain ⟨after', rfl, processed, -, replacing⟩ :=
        exists_replaced reference (fun live => .expanded entry (live.location call)) replaced
      rw [outcome_bind_ok noted] at recorded
      cases recorded.symm.trans (replacing (log ++ new))
      exact ⟨_, List.append_assoc .., ledger_accounts.trans accounts
        (ready.accounts replaced processed)⟩
  · rw [outcome_bind_error stopped] at recorded
    cases recorded

/-- **The recording of a resolver accounts for what it does** when it is due. -/
theorem follows_guarded (listed : List NodeId) (entry : String) (depth : Nat)
    (reference : NodeId) (later : List NodeId) :
    Follows (Accounts listed)
      (guarded listed depth (Expansion.resolver entry depth) reference later)
      (resolver entry depth reference later) := by
  induction depth generalizing reference later with
  | zero =>
    intro state log
    have early : ¬Due listed 0 reference later state := by
      rintro ⟨-, -, -, -, short, -⟩
      exact Nat.not_lt_zero _ short
    rw [Meets, outcome_guarded_of_not_due early]
    intro shape location same
    cases same
  | succ depth ih =>
    intro state log
    by_cases due : Due listed (depth + 1) reference later state
    · have plain := follows_resolver ledger_undergoes
        (fun replaced _ => .replaced (.refl _) replaced (.grown (.refl _))) entry (depth + 1)
        reference later state log
      rw [Meets, outcome_guarded due]
      refine plain.imp ?_ fun _ _ stops => stops
      rintro value after ⟨new, recorded, -⟩
      obtain ⟨new', same, accounts⟩ :=
        accounts_expandReference (resolves_resolver entry depth) ih due recorded
      obtain rfl := List.append_cancel_left same
      exact ⟨new, recorded, accounts⟩
    · rw [Meets, outcome_guarded_of_not_due due]
      intro shape location same
      cases same

/-- **The recording of going through a list accounts for what it does.** -/
theorem accounts_processAll {references : List NodeId} (sound : Sound listed state tree)
    (subset : references ⊆ listed) (covered : ∀ id ∈ tree.tags, id ∈ listed → id ∈ references)
    (recorded : ((processAll entry references).run log).outcome state = (.ok ((), log'), after)) :
    ∃ new, log' = log ++ new ∧ Accounts listed state new after := by
  induction references generalizing state tree log with
  | nil =>
    cases recorded
    exact ⟨[], (List.append_nil _).symm, ledger_accounts.grown (.refl _) rfl⟩
  | cons reference later ih =>
    obtain ⟨known, subset'⟩ := List.cons_subset.mp subset
    rw [processAll, run_lift_bind, outcome_bind_ok (outcome_isProcessed reference)] at recorded
    by_cases processed : reference ∈ state.processed
    · have expanded : state.processed.contains reference = true := by simpa using processed
      rw [expanded] at recorded
      have rewrites : Rewrites listed [] state tree state tree := .refl sound
      exact ih sound subset' (rewrites.covered (fun inside =>
        (sound.pending reference known).mp inside processed) covered) recorded
    · have pending : state.processed.contains reference = false := by simpa using processed
      rw [pending, Bool.not_false, if_pos rfl, StateT.run_bind] at recorded
      have walled : Walled [] := fun frame absurd => nomatch absurd
      have within := (sound.pending reference known).mpr processed
      have resolved := resolves_guarded (resolves_resolver entry (later.length + 1)) reference later
        state [] tree sound walled (Nat.lt_succ_self _) subset' known within covered
      rcases recorded_cases (follows_guarded listed entry (later.length + 1) reference later) resolved
        (fun _ _ blames => blames.shape) log with
        ⟨value, state', new, noted, ⟨tree', rewrites, gone⟩, accounts⟩ | ⟨fault, state', stopped⟩
      · rw [outcome_bind_ok noted] at recorded
        obtain ⟨new', rfl, accounts'⟩ :=
          ih rewrites.sound subset' (rewrites.covered gone covered) recorded
        exact ⟨new ++ new', List.append_assoc .., ledger_accounts.trans accounts accounts'⟩
      · rw [outcome_bind_error stopped] at recorded
        cases recorded

end Recorded

end NumberedTree

/-- What recording the expansion of the chains of a list comes to, on the table of a tree. -/
def Tree.recorded (tree : SourceTree) (entry : String) (references : List NodeId) :
    Except WalkFault (Nat × List Replacement) × WalkState :=
  ((Recording.dispatch entry references).run []).outcome { live := (LiveTree.ofTree tree).2 }

/-- A replacement is that of the call which ends the chain of a head, in the tree beneath a root as
it then is. No listed name is inside the arguments of the chain. -/
def Replacement.Closes (replacement : Replacement) (references : List NodeId) (root head : NodeId) :
    Prop :=
  ∃ ended ∈ ((replacement.before.toTree root).map LiveTree.Tag.id).preorder,
    ended.tag = replacement.old ∧ ∃ chain, Chain.ofTree? ended = some chain ∧ chain.head = head ∧
      ∀ expr ∈ chain.exprs, ∀ id ∈ expr.tags, id ∉ references

namespace Tree

open NumberedTree

variable {tree : SourceTree} {references : List NodeId} {entry : String} {count : Nat}
  {after : WalkState}

/-- A replacement in a program is that of the call which ended the chain of its head from the
beginning. -/
theorem closes_of_performed {listed : List NodeId} {first : NumberedTree} {head : NodeId}
    {replacement : Replacement} (root : first.label = .module)
    (performed : Performed listed first head replacement) :
    replacement.Closes listed first.tag head ∧ first.EndsAt head replacement.old := by
  obtain ⟨context, ended, expr, chain, reduces, reads, expansion, rfl, old, -⟩ := performed
  have inTree := mem_preorder_fill context ended
  constructor
  · have holds : (replacement.before.toTree first.tag).map LiveTree.Tag.id =
        Context.fill context ended := by
      rw [← (reduces.root_eq root).1]
      exact reads.toTree expansion.distinct
    refine ⟨ended, holds ▸ inTree, old.symm, chain, expansion.reading, rfl, expansion.clean⟩
  · refine reduces.endsAt expansion.head ⟨ended, inTree, old.symm, ?_⟩
    rw [expansion.reading, Option.map_some]

/-- **Every chain of a list is replaced once**, and nothing else is. The replacements, as they are
noted one by one, are all the changes of the table. In their order they belong to the different
names of the list: each of them puts something in the place of the call that ended the chain of its
name from the beginning, at a time when that call is still in the tree and no name of the list is
left inside the arguments of the chain. The number of these replacements is returned, and no name
of the list remains in the tree. -/
theorem dispatched_once (program : tree.IsProgram) (names : NamesIn references tree)
    (returned : tree.dispatched entry references = (.ok count, after)) :
    ∃ log heads, tree.recorded entry references = (.ok (count, log), after) ∧
      (LiveTree.ofTree tree).2.Undergoes log after.live ∧ heads.Perm references.dedup ∧
      List.Forall₂ (fun head replacement =>
        replacement.Closes references (LiveTree.ofTree tree).1 head ∧
          tree.numbered.EndsAt head replacement.old) heads log ∧
      count = references.dedup.length ∧
      ∀ id ∈ references, id ∉ ((tree.leftIn after).map LiveTree.Tag.id).tags := by
  obtain ⟨sound, tag, -⟩ := program.sound names
  obtain ⟨log, final, noted, recorded, counted, sameTable, undergoes⟩ :=
    Recording.exists_recorded returned
  obtain ⟨new, same, accounts⟩ :=
    accounts_processAll sound (List.Subset.refl _) (fun _ _ member => member) noted
  obtain rfl : log = new := same
  obtain ⟨left, heads, sound', reduces, performed, processed⟩ := accounts _ sound
  have met := @meets_dispatch references { live := (LiveTree.ofTree tree).2 } _ entry sound
  have outcome : (Expansion.dispatch entry references).outcome
      { live := (LiveTree.ofTree tree).2 } = (.ok count, after) := returned
  rw [Meets, outcome] at met
  obtain ⟨left', soundLeft, tagLeft, -, unlisted, number⟩ := met
  have holds : (tree.leftIn after).map LiveTree.Tag.id = left' := by
    rw [leftIn, ← tag, ← tagLeft]
    exact soundLeft.reads.toTree soundLeft.distinct
  have holds' : (tree.leftIn after).map LiveTree.Tag.id = left := by
    rw [leftIn, ← tag, ← (reduces.root_eq sound.root).1, sameTable]
    exact sound'.reads.toTree sound'.distinct
  have gone : ∀ id ∈ references, id ∉ left.tags := fun id member inside =>
    unlisted id (holds ▸ holds' ▸ inside) member
  refine ⟨log, heads, recorded, undergoes, ?_, ?_, number, holds'.symm ▸ gone⟩
  · -- The heads are those that are noted in the end, the latest first.
    rw [List.append_nil] at processed
    have distinct := sound'.processed.1
    rw [processed, List.nodup_reverse] at distinct
    refine (List.perm_ext_iff_of_nodup distinct (List.nodup_dedup _)).mpr fun id => ?_
    rw [List.mem_dedup, ← List.mem_reverse, ← processed]
    refine ⟨fun member => sound'.processed.2 member, fun member => ?_⟩
    by_contra absent
    exact gone id member ((sound'.pending id member).mpr absent)
  · exact tag ▸ performed.imp fun _ _ performed => closes_of_performed sound.root performed

/-- Two chains, one in an argument of the other and one of them listed twice, are replaced once
each. -/
theorem dispatched_once_nestedChains :
    nestedChains.IsProgram ∧ NamesIn [0, 4, 0] nestedChains ∧ ∃ after,
      nestedChains.dispatched "when" [0, 4, 0] = (.ok 2, after) ∧
      ∃ log heads, nestedChains.recorded "when" [0, 4, 0] = (.ok (2, log), after) ∧
        log.length = 2 ∧ heads.Perm [4, 0] ∧
        List.Forall₂ (fun head replacement =>
          replacement.Closes [0, 4, 0] (LiveTree.ofTree nestedChains).1 head ∧
            nestedChains.numbered.EndsAt head replacement.old) heads log := by
  have program : nestedChains.IsProgram := by decide
  have names : NamesIn [0, 4, 0] nestedChains := by decide
  have returned : nestedChains.dispatched "when" [0, 4, 0] =
      (.ok 2, (nestedChains.dispatched "when" [0, 4, 0]).2) :=
    eq_ok_of_toOption (by decide +kernel)
  obtain ⟨log, heads, recorded, -, perm, closes, -⟩ := dispatched_once program names returned
  have distinct : [0, 4, 0].dedup = [4, 0] := by decide
  refine ⟨program, names, _, returned, log, heads, recorded, ?_, distinct ▸ perm, closes⟩
  rw [← closes.length_eq, perm.length_eq, distinct]
  rfl

end Tree

end IfChains
