import CallSite.Proofs.Operations.Registry

/-!
# Effects and bailouts in order

An operation that can bail out is harmless in front of the effects of a call, since the interpreter
then runs the call again, and harmful behind one of them, since the interpreter goes on behind the
call.  Nearly all natives either have no effect or never bail out; the atomic accesses check their
operands first.  Only a call that stores several groups of elements converts the index of one group
after the store of another.

* `Op.canBail` — the operations that can bail out.
* `Plan.Atomic` — **no operation that can bail out comes after one with an effect**.
* `Native.quiet_or_safe` — most natives have no effects or no bailouts.
* `ElementStore.putElements_atomic_iff` — when a call that stores elements is atomic.
* `Inliner.Origin.atomic_iff` — **which plans are atomic**.
-/

namespace CallSite

open Draft (Emits emits_pure emits_add emits_bind emits_add_bind emits_push emits_resumeAfter
  emits_effectfulResult)

/-- **The operation can bail out.** -/
def Op.canBail : Op → Bool
  | toInt32 | boundsCheck | typeBarrier _ | bail => true
  | _ => false

/-- An operation with an effect in front of one that cannot bail out. -/
def Op.MayPrecede (first then' : Op) : Prop := first.isEffectful = true → then'.canBail = false

namespace Op

/-- What has no effect may stand in front of anything. -/
lemma mayPrecede_of_quiet {first : Op} (h : first.isEffectful = false) (then' : Op) :
    first.MayPrecede then' := by
  simp [MayPrecede, h]

lemma pairwise_of_quiet {ops : List Op} (h : ∀ op ∈ ops, op.isEffectful = false) :
    ops.Pairwise MayPrecede :=
  List.pairwise_of_forall_mem_list fun op hop then' _ => mayPrecede_of_quiet (h op hop) then'

lemma pairwise_of_safe {ops : List Op} (h : ∀ op ∈ ops, op.canBail = false) :
    ops.Pairwise MayPrecede :=
  List.pairwise_of_forall_mem_list fun _ _ op hop _ => h op hop

end Op

/-! ## Drafts -/

namespace Draft

variable {α β : Type}

/-- **No operation of the draft that can bail out comes after one with an effect.** -/
def Atomic (d : Draft α) : Prop := ∀ n, (d.ops n).Pairwise Op.MayPrecede

/-- What has no effect does not matter for what comes after it. -/
lemma atomic_bind_quiet {x : Draft α} {f : α → Draft β}
    (hx : x.Emits fun op => op.isEffectful = false) (hf : ∀ a, (f a).Atomic) :
    (x >>= f).Atomic := by
  intro n
  rw [ops_bind, List.pairwise_append]
  exact ⟨Op.pairwise_of_quiet (hx n), hf _ _,
    fun op hop then' _ => Op.mayPrecede_of_quiet (hx n op hop) then'⟩

lemma atomic_of_safe {d : Draft α} (h : d.Emits fun op => op.canBail = false) : d.Atomic :=
  fun n => Op.pairwise_of_safe (h n)

lemma atomic_effectfulResult {op : Op} {inputs : List Operand} {ty : ValueType}
    {types : Option TypeSet} : (effectfulResult op inputs ty types).Atomic :=
  fun _ => List.pairwise_singleton _ op

end Draft

open Draft (Atomic atomic_bind_quiet atomic_of_safe atomic_effectfulResult)

/-! ## Plans -/

namespace Plan

/-- **No operation of the plan that can bail out comes after one with an effect**, guards of the
result apart. -/
def Atomic (p : Plan) : Prop := p.ops.Pairwise Op.MayPrecede

lemma atomic_relyingOn {facts : List Dependency} {d : Draft Unit} (h : d.Atomic) :
    (relyingOn facts d).Atomic :=
  h 0

lemma Emits.atomic_of_quiet {p : Plan} (h : p.Emits fun op => op.isEffectful = false) :
    p.Atomic := Op.pairwise_of_quiet h

lemma Emits.atomic_of_safe {p : Plan} (h : p.Emits fun op => op.canBail = false) : p.Atomic :=
  Op.pairwise_of_safe h

lemma Emits.mono {S S' : Op → Prop} {p : Plan} (h : p.Emits S) (weaken : ∀ op, S op → S' op) :
    p.Emits S' :=
  fun op hop => weaken op (h op hop)

end Plan

open Plan (atomic_relyingOn)

/-! ## Atomic accesses -/

namespace TypedMemory

lemma checkedAccess_quiet (array index : Operand) :
    (checkedAccess array index).Emits fun op => op.isEffectful = false :=
  checkedAccess_emits (S := fun op => op.isEffectful = false) rfl rfl rfl array index

lemma truncated_quiet (value : Operand) :
    (truncated value).Emits fun op => op.isEffectful = false :=
  truncated_emits (S := fun op => op.isEffectful = false) rfl value

lemma compareExchange_atomic (s : Site) : (compareExchange s).Yields Plan.Atomic := by
  simp only [compareExchange, Decide.yields_bind, Decide.yields_pure]
  intro _ _ array _ element _ index _ old _ new _
  refine atomic_relyingOn (atomic_bind_quiet (checkedAccess_quiet array index) fun _ => ?_)
  exact atomic_bind_quiet (truncated_quiet old) fun _ =>
    atomic_bind_quiet (truncated_quiet new) fun _ => atomic_effectfulResult

lemma load_atomic (s : Site) : (TypedMemory.load s).Yields Plan.Atomic := by
  simp only [TypedMemory.load, Decide.yields_bind, Decide.yields_pure]
  intro _ _ array _ element _ index _
  exact atomic_relyingOn (atomic_bind_quiet (checkedAccess_quiet array index) fun _ =>
    atomic_effectfulResult)

lemma store_atomic (s : Site) : (TypedMemory.store s).Yields Plan.Atomic := by
  simp only [TypedMemory.store, Decide.yields_bind, Decide.yields_pure]
  intro _ _ array _ element _ index _ value _
  refine atomic_relyingOn (atomic_bind_quiet (checkedAccess_quiet array index) fun _ => ?_)
  refine atomic_bind_quiet (truncated_quiet value) fun _ => atomic_of_safe ?_
  exact emits_add_bind rfl fun v => emits_bind (emits_push value) fun _ => emits_resumeAfter v

lemma update_atomic (operator : AtomicOperator) (s : Site) :
    (TypedMemory.update operator s).Yields Plan.Atomic := by
  simp only [TypedMemory.update, Decide.yields_bind, Decide.yields_pure]
  intro _ _ array _ element _ index _ value _
  refine atomic_relyingOn (atomic_bind_quiet (checkedAccess_quiet array index) fun _ => ?_)
  exact atomic_bind_quiet (truncated_quiet value) fun _ => atomic_effectfulResult

end TypedMemory

/-! ## Element stores -/

namespace ElementStore

lemma isPart_safe {op : Op} (h : isPart op = true) : op.canBail = false := by
  cases op <;> first | rfl | cases h

/-- The store itself cannot bail out. -/
lemma storeNode_safe (object index value : Operand) (write : ElementWrite) :
    (storeNode object index value write).Emits fun op => op.canBail = false :=
  storeNode_emits object index value write fun _ => isPart_safe

/-- A store ends with its effect. -/
lemma exists_effectful_storeNode (object index value : Operand) (write : ElementWrite) (n : Nat) :
    ∃ op ∈ (storeNode object index value write).ops n, op.isEffectful = true := by
  cases write with
  | dense conversion =>
    refine ⟨.storeElement false, ?_, rfl⟩
    simp [storeNode]
  | typedArray element =>
    refine ⟨.storeTypedElement element .unordered, ?_, rfl⟩
    simp [storeNode]
  | typedObject element =>
    refine ⟨.storeTypedObjectElement element, ?_, rfl⟩
    simp [storeNode]

/-- Only an index that is no int32 is converted. -/
lemma int32Index_ops (index : Operand) (n : Nat) :
    (int32Index index).ops n = if index.ty = .int32 then [] else [.toInt32] := by
  rw [int32Index]
  split_ifs <;> rfl

lemma storeAll_ops_cons (write : ElementWrite) (g : Group) (rest : List (ElementWrite × Group))
    (n : Nat) : ∃ index k m, (storeAll ((write, g) :: rest)).ops n =
      (int32Index g.index).ops n ++ ((storeNode g.object index g.value write).ops k ++
        (storeAll rest).ops m) := by
  refine ⟨(int32Index g.index n).1, (int32Index g.index n).2.1, (store write g n).2.1, ?_⟩
  simp only [storeAll, store, Draft.ops_bind, Draft.ops_resumeAfter, List.append_nil,
    List.append_assoc]

/-- The stores bail out for no reason but an index that is converted. -/
lemma storeAll_safe_iff (writes : List (ElementWrite × Group)) (n : Nat) :
    (∀ op ∈ (storeAll writes).ops n, op.canBail = false) ↔
      ∀ w ∈ writes, w.2.index.ty = .int32 := by
  induction writes generalizing n with
  | nil => simp [storeAll]
  | cons w rest ih =>
    obtain ⟨write, g⟩ := w
    obtain ⟨index, k, m, hops⟩ := storeAll_ops_cons write g rest n
    have hstore := storeNode_safe g.object index g.value write k
    rw [hops, int32Index_ops]
    simp only [List.forall_mem_append, ih m, List.forall_mem_cons]
    split_ifs with hty
    · simpa [hty] using fun _ => hstore
    · simp [hty, Op.canBail]

/-- **The stores are atomic iff only the first of them converts its index**, by induction over the
groups: the effect of each store stands in front of all the stores after it. -/
theorem storeAll_atomic_iff (writes : List (ElementWrite × Group)) (n : Nat) :
    ((storeAll writes).ops n).Pairwise Op.MayPrecede ↔
      ∀ w ∈ writes.tail, w.2.index.ty = .int32 := by
  cases writes with
  | nil => simp [storeAll]
  | cons w rest =>
    obtain ⟨write, g⟩ := w
    obtain ⟨index, k, m, hops⟩ := storeAll_ops_cons write g rest n
    rw [hops, List.tail_cons, ← storeAll_safe_iff rest m]
    constructor
    · intro hpairwise op hop
      obtain ⟨store, hstore, heffectful⟩ :=
        exists_effectful_storeNode g.object index g.value write k
      have hrest := (List.pairwise_append.1 (List.pairwise_append.1 hpairwise).2.1).2.2
      exact hrest store hstore op hop heffectful
    · intro hsafe
      have hquiet : ∀ op ∈ (int32Index g.index).ops n, op.isEffectful = false := by
        rw [int32Index_ops]
        split_ifs
        · exact List.forall_mem_nil _
        · exact List.forall_mem_singleton.2 rfl
      have hall : ∀ op ∈ (storeNode g.object index g.value write).ops k ++ (storeAll rest).ops m,
          op.canBail = false :=
        List.forall_mem_append.2 ⟨storeNode_safe g.object index g.value write k, hsafe⟩
      rw [List.pairwise_append]
      exact ⟨Op.pairwise_of_quiet hquiet, Op.pairwise_of_safe hall,
        fun op hop then' _ => Op.mayPrecede_of_quiet (hquiet op hop) then'⟩

/-- Every third argument from the second on is an index. -/
lemma groups_getElem? : ∀ (args : List Operand) (_ : args.length % 3 = 0) (k : Nat),
    (groups args)[k]?.map (·.index) = args[3 * k + 1]?
  | [], _, k => by simp [groups]
  | [_], h, _ => by simp at h
  | [_, _], h, _ => by simp at h
  | _ :: _ :: _ :: _, _, 0 => rfl
  | object :: index :: value :: rest, h, k + 1 => by
    have hlength : rest.length % 3 = 0 := by
      simp only [List.length_cons] at h
      omega
    have hrest := groups_getElem? rest hlength k
    have hindex : 3 * (k + 1) + 1 = 3 * k + 1 + 3 := by omega
    rw [hindex]
    simpa [groups] using hrest

/-- The groups after the first, told by the positions of their indexes. -/
lemma forall_mem_tail_groups {args : List Operand} (h : args.length % 3 = 0)
    {P : Operand → Prop} : (∀ g ∈ (groups args).tail, P g.index) ↔
      ∀ k x, 1 ≤ k → args[3 * k + 1]? = some x → P x := by
  constructor
  · intro hall k x hk hx
    rw [← groups_getElem? args h, Option.map_eq_some_iff] at hx
    obtain ⟨g, hg, rfl⟩ := hx
    refine hall g (List.mem_iff_getElem?.2 ⟨k - 1, ?_⟩)
    rw [List.getElem?_tail, Nat.sub_add_cancel hk]
    exact hg
  · intro hall g hg
    obtain ⟨k, hk⟩ := List.mem_iff_getElem?.1 hg
    rw [List.getElem?_tail] at hk
    refine hall (k + 1) g.index (Nat.le_add_left 1 k) ?_
    rw [← groups_getElem? args h, hk]
    rfl

/-- **When a call that stores elements is atomic**: no group but the first has an index to
convert. -/
theorem putElements_atomic_iff (s : Site) : (putElements s).Yields fun p =>
    (p.Atomic ↔ ∀ k x, 1 ≤ k → s.args[3 * k + 1]? = some x → x.ty = .int32) := by
  simp only [putElements, Decide.yields_bind, Decide.yields_pure]
  intro _ hclassify r hr
  have hlength : s.args.length % 3 = 0 := by
    have haccepts := (Site.admits_of_classify hclassify).accepts
    simp only [Arity.accepts, Bool.and_eq_true, decide_eq_true_eq] at haccepts
    exact haccepts.2
  have hmap : r.1.map (·.2) = groups s.args := (classifyAll_ensures _).of_eq_ok hr
  have hops : (Plan.relyingOn r.2 (do
      Draft.pushConstant .undefined
      storeAll r.1)).ops = .constant .undefined :: (storeAll r.1).ops 1 := rfl
  have hconstant : ∀ op ∈ (storeAll r.1).ops 1, (Op.constant .undefined).MayPrecede op :=
    fun op _ => Op.mayPrecede_of_quiet rfl op
  rw [← forall_mem_tail_groups (P := fun x => x.ty = .int32) hlength, ← hmap, ← List.map_tail,
    List.forall_mem_map, ← storeAll_atomic_iff, Plan.Atomic, hops, List.pairwise_cons]
  exact and_iff_right hconstant

end ElementStore

/-! ## The registry -/

namespace Native

/-- The native accesses an element of a shared array atomically. -/
def isAtomicAccess (n : Native) : Bool :=
  n matches atomicsCompareExchange | atomicsLoad | atomicsStore | atomicsAdd | atomicsSub
    | atomicsAnd | atomicsOr | atomicsXor

/-- **Most natives have no effects or no bailouts.** -/
theorem quiet_or_safe (n : Native) (haccess : n.isAtomicAccess = false)
    (hput : n ≠ unsafePutElements) :
    (∀ op, n.mayEmit op = true → op.isEffectful = false) ∨
      ∀ op, n.mayEmit op = true → op.canBail = false := by
  cases n
  case mathPow | stringCharCodeAt | stringCharAt | stringFromCharCode | toInteger
      | testingBailout =>
    left
    intro op hop
    cases op <;> first | rfl | cases hop
  case unsafePutElements => exact absurd rfl hput
  all_goals first
    | exact absurd haccess (by decide)
    | right
      intro op hop
      cases op <;> first | rfl | cases hop

end Native

namespace Registry

/-- The specializers of atomic accesses check all operands before the access. -/
lemma call?_atomic_of_isAtomicAccess {native : Native} (h : native.isAtomicAccess = true) :
    ∀ p ∈ call? native, ∀ f s, (p.decide f s).Yields Plan.Atomic := by
  intro p hp f s
  cases native
  case atomicsCompareExchange =>
    cases hp
    exact TypedMemory.compareExchange_atomic s
  case atomicsLoad =>
    cases hp
    exact TypedMemory.load_atomic s
  case atomicsStore =>
    cases hp
    exact TypedMemory.store_atomic s
  case atomicsAdd | atomicsSub | atomicsAnd | atomicsOr | atomicsXor =>
    cases hp
    exact TypedMemory.update_atomic _ s
  all_goals cases h

/-- **The plans of all other natives are atomic**, too. -/
theorem find?_atomic {kind : CallKind} {native : Native} {p : Specializer}
    (h : find? kind native = some p) (hput : native ≠ .unsafePutElements) (f : FunctionObject)
    (s : Site) : (p.decide f s).Yields Plan.Atomic := by
  have hemits := find?_emits h f s
  cases haccess : native.isAtomicAccess with
  | true =>
    cases kind with
    | call => exact call?_atomic_of_isAtomicAccess haccess p h f s
    | getter =>
      have hnot : native.isAtomicAccess = false := by cases native <;> first | rfl | cases h
      simp [hnot] at haccess
  | false =>
    rcases native.quiet_or_safe haccess hput with hquiet | hsafe
    · exact hemits.mono fun q hq => (hq.mono hquiet).atomic_of_quiet
    · exact hemits.mono fun q hq => (hq.mono hsafe).atomic_of_safe

end Registry

/-! ## Decisions about a call -/

/-- **Which plans are atomic**: all but those that store several groups of elements, of which one
after the first has an index to convert. -/
theorem Inliner.Origin.atomic_iff {s : Site} {p : Plan} {callee : Callee} (h : Origin s p callee) :
    p.Atomic ↔ ∀ f, callee = .function f → f.native? = some .unsafePutElements →
      ∀ k x, 1 ≤ k → s.args[3 * k + 1]? = some x → x.ty = .int32 := by
  have hemits := h.emits
  cases h with
  | @native f native specializer hnative hfind hdecide =>
    by_cases hput : native = .unsafePutElements
    · subst hput
      cases hkind : s.call.kind with
      | getter =>
        rw [hkind] at hfind
        cases hfind
      | call =>
        rw [hkind] at hfind
        obtain rfl := Option.some.inj hfind
        have hiff : p.Atomic ↔ ∀ k x, 1 ≤ k → s.args[3 * k + 1]? = some x → x.ty = .int32 :=
          ElementStore.putElements_atomic_iff s p hdecide
        rw [hiff]
        exact ⟨fun hall _ _ _ => hall, fun hall => hall f rfl hnative⟩
    · refine iff_of_true (Registry.find?_atomic hfind hput f s p hdecide) ?_
      rintro _ ⟨⟩ hnative'
      exact absurd (Option.some.inj (hnative.symm.trans hnative')) hput
  | @descriptor d hdecide =>
    refine iff_of_true (Plan.Emits.atomic_of_safe (hemits.mono fun op hop => ?_)) nofun
    cases op <;> first | rfl | cases hop

end CallSite
