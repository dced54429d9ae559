import Mathlib.Logic.Function.Basic
import AstateRdma.Backend

/-!
# The tensor meta map

`TransferTensorMeta` maps a sharded key to the vector of places a tensor is registered at.
Two helpers grow it: `AddTensorRDMAInfo` appends an entry and checks nothing;
`EmplaceTensorRDMAInfo` builds the entry from its parts and first compares the new tensor's
shape with the last entry's, through two `ATensor` pointers it dereferences unchecked.

`ShardedKey`, `NodeInfo` and `ATensor` are not among the sources: they are the parameters
`K`, `N` and `A`, and `ATensor::IsShapeEqual` is a parameter `isShapeEqual`. The map is a
function; a key bound to an empty vector is `some []`.

* `MetaInv` — every entry has a tensor, and the entries under a key have pairwise equal
  shapes;
* `emplace_inv`, `add_inv` — the helpers keep it, `Emplace` when given a tensor, `Add` when
  given an entry whose tensor has the key's shape;
* `built_meta_inv` — every map built so holds it, and `Emplace` on it never dereferences a
  null pointer;
* `MetaInv.convert` — on such a map `ConvertFromTensorRDMAInfo` never throws;
* `emplace_default_tensor_dereferences_null` — `Emplace`'s default null tensor breaks the
  invariant, and a later `Emplace` under the key dereferences it;
* `meta_ops_append_only` — along every run of the helpers each key's vector only grows at its
  end, and no key is removed (`add_has`, `emplace_has` for one call);
* `emplace_against_add` — `Emplace` leaves what `Add` leaves wherever its check passes, except
  on a key bound to an empty vector, where it stores nothing.
-/

namespace AstateRdma

/-- `TensorRDMAInfo`: address, size, remote key and owner of a registered tensor, and the
tensor; `atensor = none` is a null `std::shared_ptr<ATensor>`. -/
structure TensorRDMAInfo (N A : Type) where
  addr : Ptr
  size : UInt64
  rkey : String
  node_info : N
  atensor : Option A

/-- `TransferTensorMeta`: `none` at a key the `unordered_map` does not hold. -/
def TransferTensorMeta (K N A : Type) : Type := K → Option (List (TensorRDMAInfo N A))

/-- The empty map. -/
def TransferTensorMeta.empty {K N A : Type} : TransferTensorMeta K N A := fun _ => none

section Lookup

variable {K N A : Type}

/-- `TensorMemoryRDMAInfo`, the protocol's form of an entry. Its declaration is not among
the sources: its fields are the four `ConvertFromTensorRDMAInfo` fills, in that order. -/
structure TensorMemoryRDMAInfo (A : Type) where
  addr : Ptr
  size : UInt64
  rkey : String
  atensor : A

/-- `ConvertToTensorRDMAInfo(protocol_info, node_info, atensor)`: the tensor is copied into a
new `shared_ptr`, never null; the tensor `protocol_info` carries is not read. -/
def convertToTensorRDMAInfo (protocol_info : TensorMemoryRDMAInfo A) (node_info : N)
    (atensor : A) : TensorRDMAInfo N A :=
  ⟨protocol_info.addr, protocol_info.size, protocol_info.rkey, node_info, some atensor⟩

/-- `ConvertFromTensorRDMAInfo(rdma_info)`. -/
def convertFromTensorRDMAInfo (rdma_info : TensorRDMAInfo N A) :
    Except Exn (TensorMemoryRDMAInfo A) :=
  match rdma_info.atensor with
  | none => .error (.runtimeError "illegal state: TensorRDMAInfo has no ATensor")
  | some a => .ok ⟨rdma_info.addr, rdma_info.size, rdma_info.rkey, a⟩

/-- `GetTensorRDMAInfoVector(tensor_key, tx_tensor_data)`; `none` is `nullptr`. -/
def getTensorRDMAInfoVector (tensor_key : K) (tx_tensor_data : TransferTensorMeta K N A) :
    Option (List (TensorRDMAInfo N A)) :=
  tx_tensor_data tensor_key

/-- `HasTensorRDMAInfo(tensor_key, tx_tensor_data)`. -/
def hasTensorRDMAInfo (tensor_key : K) (tx_tensor_data : TransferTensorMeta K N A) : Bool :=
  (tx_tensor_data tensor_key).isSome

/-- Converting to the map's form and back gives the protocol entry with the tensor that
was passed. -/
theorem convertFrom_convertTo (protocol_info : TensorMemoryRDMAInfo A) (node_info : N)
    (atensor : A) :
    convertFromTensorRDMAInfo (convertToTensorRDMAInfo protocol_info node_info atensor) =
      .ok { protocol_info with atensor := atensor } :=
  rfl

end Lookup

/-- How a call of the helpers fails: by an exception, or by dereferencing a null `ATensor`
pointer (undefined behaviour). -/
inductive MetaFault where
  | thrown (ex : Exn)
  | nullDeref

section Helpers

variable {K N A : Type} [DecidableEq K]

/-- `AddTensorRDMAInfo(tx_tensor_data, tensor_key, rdma_info)`. -/
def addTensorRDMAInfo (tx_tensor_data : TransferTensorMeta K N A) (tensor_key : K)
    (rdma_info : TensorRDMAInfo N A) : TransferTensorMeta K N A :=
  match tx_tensor_data tensor_key with
  | some v => Function.update tx_tensor_data tensor_key (some (v ++ [rdma_info]))
  | none => Function.update tx_tensor_data tensor_key (some [rdma_info])

/-- `EmplaceTensorRDMAInfo(tx_tensor_data, tensor_key, addr, size, rkey, node_info, atensor)`
(`atensor` defaults to `nullptr`, here `none`). The check runs when the key holds a
non-empty vector; otherwise `unordered_map::emplace` inserts a one-entry vector, which does
nothing at a key already present. -/
def emplaceTensorRDMAInfo (isShapeEqual : A → A → Bool)
    (tx_tensor_data : TransferTensorMeta K N A) (tensor_key : K) (addr : Ptr) (size : UInt64)
    (rkey : String) (node_info : N) (atensor : Option A) :
    Except MetaFault (TransferTensorMeta K N A) :=
  let info : TensorRDMAInfo N A := ⟨addr, size, rkey, node_info, atensor⟩
  match tx_tensor_data tensor_key with
  | none => .ok (Function.update tx_tensor_data tensor_key (some [info]))
  | some v =>
    match v.getLast? with
    | none => .ok tx_tensor_data
    | some back =>
      match back.atensor, atensor with
      | some last, some a =>
        if isShapeEqual last a then
          .ok (Function.update tx_tensor_data tensor_key (some (v ++ [info])))
        else .error (.thrown (.runtimeError "illegal state: Tensor shape mismatch"))
      | _, _ => .error .nullDeref

end Helpers

/-! ## The representation invariant -/

section Invariant

variable {K N A : Type} (isShapeEqual : A → A → Bool)

/-- Two entries that both carry a tensor, of equal shapes. -/
def shapeMatch (i j : TensorRDMAInfo N A) : Bool :=
  match i.atensor, j.atensor with
  | some a, some b => isShapeEqual a b
  | _, _ => false

/-- The invariant `Emplace`'s check relies on: comparing with the last entry only is
enough when every entry has a tensor and the entries under a key agree pairwise. -/
structure MetaInv (m : TransferTensorMeta K N A) : Prop where
  nonnull : ∀ k v, m k = some v → ∀ i ∈ v, i.atensor.isSome
  shapes : ∀ k v, m k = some v → v.Pairwise fun i j => shapeMatch isShapeEqual i j

theorem MetaInv.empty :
    MetaInv isShapeEqual (TransferTensorMeta.empty : TransferTensorMeta K N A) :=
  ⟨fun _ _ h => (nomatch h), fun _ _ h => (nomatch h)⟩

/-- Binding a key to a vector that has the two properties keeps the invariant. -/
theorem shapeMatch_iff {i j : TensorRDMAInfo N A} :
    shapeMatch isShapeEqual i j = true ↔
      ∃ a b, i.atensor = some a ∧ j.atensor = some b ∧ isShapeEqual a b = true := by
  unfold shapeMatch
  split <;> simp_all

theorem MetaInv.update [DecidableEq K] {m : TransferTensorMeta K N A}
    (inv : MetaInv isShapeEqual m) (k : K)
    {v : List (TensorRDMAInfo N A)} (hnull : ∀ i ∈ v, i.atensor.isSome)
    (hshape : v.Pairwise fun i j => shapeMatch isShapeEqual i j) :
    MetaInv isShapeEqual (Function.update m k (some v)) := by
  constructor <;> intro k' v' h <;> by_cases hk : k' = k
  · subst hk; rw [Function.update_same, Option.some.injEq] at h; exact h ▸ hnull
  · rw [Function.update_noteq hk] at h; exact inv.nonnull k' v' h
  · subst hk; rw [Function.update_same, Option.some.injEq] at h; exact h ▸ hshape
  · rw [Function.update_noteq hk] at h; exact inv.shapes k' v' h

/-- On a map with the invariant every entry converts to the protocol form, with its own
address, size, remote key and tensor: `ConvertFromTensorRDMAInfo` never throws on it. -/
theorem MetaInv.convert {m : TransferTensorMeta K N A} (inv : MetaInv isShapeEqual m) {k : K}
    {v : List (TensorRDMAInfo N A)} (h : getTensorRDMAInfoVector k m = some v) :
    ∀ i ∈ v, ∃ a, i.atensor = some a ∧
      convertFromTensorRDMAInfo i = .ok ⟨i.addr, i.size, i.rkey, a⟩ := by
  intro i hi
  obtain ⟨a, ha⟩ := Option.isSome_iff_exists.1 (inv.nonnull k v h i hi)
  exact ⟨a, ha, by simp [convertFromTensorRDMAInfo, ha]⟩

/-- What an `Emplace` that returns leaves: the map as it was, when the key is bound to an
empty vector; otherwise the map `Add` leaves, the new entry matching the key's last one. -/
theorem emplace_eq_ok [DecidableEq K] {m m' : TransferTensorMeta K N A} {k : K} {addr : Ptr}
    {size : UInt64} {rkey : String} {node_info : N} {atensor : Option A}
    (h : emplaceTensorRDMAInfo isShapeEqual m k addr size rkey node_info atensor = .ok m') :
    (m k = some [] ∧ m' = m) ∨
      (m' = addTensorRDMAInfo m k ⟨addr, size, rkey, node_info, atensor⟩ ∧
        ∀ back, ((m k).getD []).getLast? = some back →
          shapeMatch isShapeEqual back ⟨addr, size, rkey, node_info, atensor⟩) := by
  unfold emplaceTensorRDMAInfo at h
  split at h <;> rename_i hv
  · cases h; exact .inr ⟨by simp [addTensorRDMAInfo, hv], by simp [hv]⟩
  · split at h <;> rename_i hback
    · cases h; exact .inl ⟨by rw [hv, List.getLast?_eq_none_iff.1 hback], rfl⟩
    · split at h
      · rename_i last a hlast
        dsimp only at h
        split at h
        · cases h
          refine .inr ⟨by simp [addTensorRDMAInfo, hv], fun b hb => ?_⟩
          rw [hv, Option.getD_some, hback, Option.some.injEq] at hb
          exact hb ▸ (shapeMatch_iff _).2 ⟨last, a, hlast, rfl, ‹_›⟩
        · cases h
      · cases h

/-- `Emplace`'s default tensor is null, and it is not checked. Under a key the map does not
hold, `Emplace` stores the entry with it, and the map loses the invariant; every later
`Emplace` under the key, with or without a tensor, dereferences it in the shape check. Under
a key that holds entries, `Emplace` with the default dereferences it at once. -/
theorem emplace_default_tensor_dereferences_null [DecidableEq K] (m : TransferTensorMeta K N A)
    (k : K) (addr : Ptr) (size : UInt64) (rkey : String) (node_info : N) :
    (m k = none → ∃ m', emplaceTensorRDMAInfo isShapeEqual m k addr size rkey node_info none =
        .ok m' ∧ ¬MetaInv isShapeEqual m' ∧
      ∀ addr' size' rkey' node_info' atensor', emplaceTensorRDMAInfo isShapeEqual m' k addr'
        size' rkey' node_info' atensor' = .error .nullDeref) ∧
    ∀ v, m k = some v → v ≠ [] →
      emplaceTensorRDMAInfo isShapeEqual m k addr size rkey node_info none = .error .nullDeref := by
  constructor
  · intro hk
    refine ⟨Function.update m k (some [⟨addr, size, rkey, node_info, none⟩]),
      by simp [emplaceTensorRDMAInfo, hk], fun inv => ?_, fun _ _ _ _ _ => ?_⟩
    · simpa using inv.nonnull k [⟨addr, size, rkey, node_info, none⟩] (by simp) _
        (List.mem_singleton_self _)
    · simp [emplaceTensorRDMAInfo]
  · intro v hv hne
    obtain ⟨back, hb⟩ := Option.ne_none_iff_exists'.1 (mt List.getLast?_eq_none_iff.1 hne)
    simp only [emplaceTensorRDMAInfo, hv, hb]
    split <;> simp_all

/-- The failing input: the default tensor stored under a new key, then an `Emplace` with a
tensor under the same key. -/
example :
    let m : TransferTensorMeta Nat Unit (List Nat) := .empty
    let emplace := emplaceTensorRDMAInfo (fun a b : List Nat => a == b)
    (emplace m 0 4096 1024 "rkey" () none).bind (fun m => emplace m 0 8192 1024 "rkey" ()
      (some [2, 2])) = .error .nullDeref :=
  rfl

end Invariant

section Presence

variable {K N A : Type} [DecidableEq K] (m : TransferTensorMeta K N A) (k k' : K)

theorem hasTensorRDMAInfo_update (v : List (TensorRDMAInfo N A)) :
    hasTensorRDMAInfo k' (Function.update m k (some v)) =
      (decide (k' = k) || hasTensorRDMAInfo k' m) := by
  by_cases hk : k' = k <;> simp [hasTensorRDMAInfo, Function.update_apply, hk]

/-- After `Add` the key is present, and so is every key that was. -/
theorem add_has (info : TensorRDMAInfo N A) :
    hasTensorRDMAInfo k' (addTensorRDMAInfo m k info) =
      (decide (k' = k) || hasTensorRDMAInfo k' m) := by
  unfold addTensorRDMAInfo
  split <;> exact hasTensorRDMAInfo_update ..

/-- After an `Emplace` that returns the key is present, and so is every key that was: the
helper inserts the key or finds it, and removes none. -/
theorem emplace_has (isShapeEqual : A → A → Bool) {m' : TransferTensorMeta K N A}
    {addr : Ptr} {size : UInt64} {rkey : String} {node_info : N} {atensor : Option A}
    (h : emplaceTensorRDMAInfo isShapeEqual m k addr size rkey node_info atensor = .ok m') :
    hasTensorRDMAInfo k' m' = (decide (k' = k) || hasTensorRDMAInfo k' m) := by
  rcases emplace_eq_ok _ h with ⟨hv, rfl⟩ | ⟨rfl, -⟩
  · by_cases hk : k' = k <;> simp [hasTensorRDMAInfo, hk, hv]
  · exact add_has m k k' _

end Presence

/-! ## `Emplace` against `Add` -/

section Refinement

variable {K N A : Type} [DecidableEq K]

/-- `Add` appends its entry to the key's vector, a one-entry vector for a key the map does not
hold, and leaves every other key as it was. -/
theorem addTensorRDMAInfo_apply (m : TransferTensorMeta K N A) (k : K)
    (info : TensorRDMAInfo N A) (k' : K) :
    addTensorRDMAInfo m k info k' = if k' = k then some ((m k).getD [] ++ [info]) else m k' := by
  unfold addTensorRDMAInfo
  by_cases hk : k' = k
  · subst hk; cases h : m k' <;> simp [h]
  · cases h : m k <;> simp [Function.update_noteq hk, hk, h]

/-- `Emplace` against `Add`, for every map, key and entry, with `ATensor::IsShapeEqual` any
test. `Add` appends the entry at the key (a one-entry vector for a new key) and leaves every
other key unchanged. `Emplace` leaves the same map where the key is absent, and where its
vector is non-empty and the new tensor has the last entry's shape; with another shape it
throws, and with a null tensor on either side it dereferences it. Where the key is bound to
an empty vector, `unordered_map::emplace` finds the key and does nothing: the map stays as it
was, and the entry `Add` would store is lost. -/
theorem emplace_against_add (isShapeEqual : A → A → Bool) (m : TransferTensorMeta K N A)
    (k : K) (addr : Ptr) (size : UInt64) (rkey : String) (node_info : N) (atensor : Option A) :
    let info : TensorRDMAInfo N A := ⟨addr, size, rkey, node_info, atensor⟩
    let emplace := emplaceTensorRDMAInfo isShapeEqual m k addr size rkey node_info atensor
    (∀ k', addTensorRDMAInfo m k info k' =
      if k' = k then some ((m k).getD [] ++ [info]) else m k') ∧
    (m k = none → emplace = .ok (addTensorRDMAInfo m k info)) ∧
    (∀ v back, m k = some v → v.getLast? = some back →
      (∀ last a, back.atensor = some last → atensor = some a →
        (isShapeEqual last a = true → emplace = .ok (addTensorRDMAInfo m k info)) ∧
        (isShapeEqual last a = false →
          emplace = .error (.thrown (.runtimeError "illegal state: Tensor shape mismatch")))) ∧
      (back.atensor = none ∨ atensor = none → emplace = .error .nullDeref)) ∧
    (m k = some [] → emplace = .ok m ∧ addTensorRDMAInfo m k info k = some [info]) := by
  refine ⟨addTensorRDMAInfo_apply m k _, fun h => ?_, fun v back hv hback => ⟨?_, ?_⟩,
    fun h => by simp [emplaceTensorRDMAInfo, addTensorRDMAInfo, h]⟩
  · simp [emplaceTensorRDMAInfo, addTensorRDMAInfo, h]
  · rintro last a hlast rfl
    constructor <;> intro hshape <;>
      simp [emplaceTensorRDMAInfo, addTensorRDMAInfo, hv, hback, hlast, hshape]
  · rintro (hnull | hnull) <;> simp [emplaceTensorRDMAInfo, hv, hback, hnull]

/-- The failing input: `Emplace` of a tensor under a key bound to an empty vector. -/
example :
    let m : TransferTensorMeta Nat Unit (List Nat) :=
      Function.update TransferTensorMeta.empty 0 (some [])
    let info : TensorRDMAInfo Unit (List Nat) := ⟨4096, 1024, "rkey", (), some [2, 2]⟩
    emplaceTensorRDMAInfo (fun a b : List Nat => a == b) m 0 4096 1024 "rkey" () (some [2, 2]) =
        .ok m ∧ addTensorRDMAInfo m 0 info 0 = some [info] :=
  ⟨rfl, rfl⟩

end Refinement

/-- `ATensor::IsShapeEqual` as the results below use it: transitive, as a comparison of
shapes is. -/
structure ShapeTest (A : Type) where
  isShapeEqual : A → A → Bool
  trans : ∀ {a b c : A}, isShapeEqual a b = true → isShapeEqual b c = true →
    isShapeEqual a c = true

section Preservation

variable {K N A : Type} [DecidableEq K] (S : ShapeTest A)

theorem ShapeTest.shapeMatch_trans {i j l : TensorRDMAInfo N A}
    (hij : shapeMatch S.isShapeEqual i j = true) (hjl : shapeMatch S.isShapeEqual j l = true) :
    shapeMatch S.isShapeEqual i l = true := by
  obtain ⟨a, b, ha, hb, hab⟩ := (shapeMatch_iff _).1 hij
  obtain ⟨b', c, hb', hc, hbc⟩ := (shapeMatch_iff _).1 hjl
  rw [hb, Option.some.injEq] at hb'
  exact (shapeMatch_iff _).2 ⟨a, c, ha, hc, S.trans hab (hb' ▸ hbc)⟩

/-- `Add` keeps the invariant when its entry has a tensor of the key's shape. -/
theorem add_inv {m : TransferTensorMeta K N A} (inv : MetaInv S.isShapeEqual m) (k : K)
    {info : TensorRDMAInfo N A} (hnull : info.atensor.isSome)
    (hshape : ∀ i ∈ (m k).getD [], shapeMatch S.isShapeEqual i info) :
    MetaInv S.isShapeEqual (addTensorRDMAInfo m k info) := by
  unfold addTensorRDMAInfo
  split
  · rename_i v hv
    rw [hv, Option.getD_some] at hshape
    refine inv.update _ k (fun i hi => ?_) ?_
    · rcases List.mem_append.1 hi with hi | hi
      · exact inv.nonnull k v hv i hi
      · rwa [List.mem_singleton.1 hi]
    · exact List.pairwise_append.2 ⟨inv.shapes k v hv, List.pairwise_singleton _ _,
        fun i hi j hj => List.mem_singleton.1 hj ▸ hshape i hi⟩
  · exact inv.update _ k (by simpa using hnull) (List.pairwise_singleton _ _)

/-- `Emplace` given a tensor keeps the invariant: the new entry matches the last one, hence
every earlier one. -/
theorem emplace_inv {m m' : TransferTensorMeta K N A} (inv : MetaInv S.isShapeEqual m)
    {k : K} {addr : Ptr} {size : UInt64} {rkey : String} {node_info : N} {a : A}
    (h : emplaceTensorRDMAInfo S.isShapeEqual m k addr size rkey node_info (some a) = .ok m') :
    MetaInv S.isShapeEqual m' := by
  rcases emplace_eq_ok _ h with ⟨-, rfl⟩ | ⟨rfl, hlast⟩
  · exact inv
  refine add_inv S inv k rfl fun i hi => ?_
  cases hv : m k with
  | none => simp [hv] at hi
  | some v =>
    rw [hv, Option.getD_some] at hi hlast
    obtain ⟨ys, back, rfl⟩ := (List.eq_nil_or_concat' v).resolve_left (List.ne_nil_of_mem hi)
    have matched := hlast back (by simp)
    rcases List.mem_append.1 hi with hi | hi
    · exact S.shapeMatch_trans ((List.pairwise_append.1 (inv.shapes k _ hv)).2.2 i hi back
        (List.mem_singleton_self _)) matched
    · rw [List.mem_singleton.1 hi]; exact matched

/-- On a map with the invariant, `Emplace` given a tensor dereferences no null pointer. -/
theorem emplace_no_nullDeref {m : TransferTensorMeta K N A} (inv : MetaInv S.isShapeEqual m)
    (k : K) (addr : Ptr) (size : UInt64) (rkey : String) (node_info : N) (a : A) :
    emplaceTensorRDMAInfo S.isShapeEqual m k addr size rkey node_info (some a) ≠
      .error .nullDeref := by
  unfold emplaceTensorRDMAInfo
  split
  · simp
  · rename_i v hv
    split
    · simp
    · rename_i back hback
      split
      · split <;> simp
      · rename_i hnone
        obtain ⟨last, hlast⟩ := Option.isSome_iff_exists.1
          (inv.nonnull k v hv back (List.mem_of_getLast?_eq_some hback))
        exact absurd rfl (hnone last a hlast)

end Preservation

/-! ## The maps the helpers build -/

/-- The maps built from the empty map when every `Emplace` is given a tensor and every
`Add` an entry whose tensor has the shape of the key's entries. -/
inductive Built {K N A : Type} [DecidableEq K] (isShapeEqual : A → A → Bool) :
    TransferTensorMeta K N A → Prop
  | empty : Built isShapeEqual .empty
  | add {m : TransferTensorMeta K N A} {k : K} {info : TensorRDMAInfo N A} :
      Built isShapeEqual m → info.atensor.isSome →
      (∀ i ∈ (m k).getD [], shapeMatch isShapeEqual i info) →
      Built isShapeEqual (addTensorRDMAInfo m k info)
  | emplace {m m' : TransferTensorMeta K N A} {k : K} {addr : Ptr} {size : UInt64}
      {rkey : String} {node_info : N} {a : A} : Built isShapeEqual m →
      emplaceTensorRDMAInfo isShapeEqual m k addr size rkey node_info (some a) = .ok m' →
      Built isShapeEqual m'

theorem Built.metaInv {K N A : Type} [DecidableEq K] (S : ShapeTest A)
    {m : TransferTensorMeta K N A} (h : Built S.isShapeEqual m) : MetaInv S.isShapeEqual m := by
  induction h with
  | empty => exact .empty _
  | add _ hnull hshape ih => exact add_inv S ih _ hnull hshape
  | emplace _ hm ih => exact emplace_inv S ih hm

/-- Every map so built has the invariant. So `ConvertFromTensorRDMAInfo` never throws its
"illegal state" on an entry of it, and `Emplace` on it with a tensor dereferences no null
pointer, and whatever it stores keeps the invariant: it never admits an entry whose shape
differs from one already under the key. -/
theorem built_meta_inv {K N A : Type} [DecidableEq K] (S : ShapeTest A)
    {m : TransferTensorMeta K N A} (h : Built S.isShapeEqual m) :
    MetaInv S.isShapeEqual m ∧
      (∀ k v, getTensorRDMAInfoVector k m = some v → ∀ i ∈ v, ∃ a, i.atensor = some a ∧
        convertFromTensorRDMAInfo i = .ok ⟨i.addr, i.size, i.rkey, a⟩) ∧
      ∀ (k : K) (addr : Ptr) (size : UInt64) (rkey : String) (node_info : N) (a : A),
        emplaceTensorRDMAInfo S.isShapeEqual m k addr size rkey node_info (some a) ≠
          .error .nullDeref ∧
        ∀ m', emplaceTensorRDMAInfo S.isShapeEqual m k addr size rkey node_info (some a) =
          .ok m' → MetaInv S.isShapeEqual m' := by
  have inv := h.metaInv S
  exact ⟨inv, fun _ _ hv => MetaInv.convert _ inv hv, fun k addr size rkey node_info a =>
    ⟨emplace_no_nullDeref S inv k addr size rkey node_info a,
      fun _ hm => emplace_inv S inv hm⟩⟩

theorem built_meta_inv_add_emplace :
    let S : ShapeTest (List Nat) := ⟨fun a b => a == b, fun h₁ h₂ => by simp_all⟩
    let m₁ :=
      addTensorRDMAInfo (TransferTensorMeta.empty : TransferTensorMeta Nat Unit (List Nat))
      0 ⟨4096, 1024, "rkey", (), some [2, 3]⟩
    let m := addTensorRDMAInfo m₁ 0 ⟨8192, 1024, "rkey", (), some [2, 3]⟩
    emplaceTensorRDMAInfo S.isShapeEqual m₁ 0 8192 1024 "rkey" () (some [2, 3]) = .ok m ∧
      Built S.isShapeEqual m ∧
      (MetaInv S.isShapeEqual m ∧
        (∀ k v, getTensorRDMAInfoVector k m = some v → ∀ i ∈ v, ∃ a,
          i.atensor = some a ∧
          convertFromTensorRDMAInfo i = .ok ⟨i.addr, i.size, i.rkey, a⟩) ∧
        ∀ (k : Nat) (addr : Ptr) (size : UInt64) (rkey : String) (node_info : Unit)
          (a : List Nat),
          emplaceTensorRDMAInfo S.isShapeEqual m k addr size rkey node_info (some a) ≠
            .error .nullDeref ∧
          ∀ m', emplaceTensorRDMAInfo S.isShapeEqual m k addr size rkey node_info (some a) =
            .ok m' → MetaInv S.isShapeEqual m') :=
  have h₁ : Built (fun a b : List Nat => a == b)
      (addTensorRDMAInfo (.empty : TransferTensorMeta Nat Unit (List Nat)) 0
        ⟨4096, 1024, "rkey", (), some [2, 3]⟩) :=
    .add .empty rfl (by simp [TransferTensorMeta.empty])
  have he : emplaceTensorRDMAInfo (fun a b : List Nat => a == b)
      (addTensorRDMAInfo .empty 0 ⟨4096, 1024, "rkey", (), some [2, 3]⟩) 0 8192 1024 "rkey" ()
        (some [2, 3]) = .ok (addTensorRDMAInfo (addTensorRDMAInfo .empty 0
          ⟨4096, 1024, "rkey", (), some [2, 3]⟩) 0
            ⟨8192, 1024, "rkey", (), some [2, 3]⟩) := rfl
  have h : Built
    (⟨fun a b => a == b, fun h₁ h₂ => by simp_all⟩ : ShapeTest (List Nat)).isShapeEqual
      (addTensorRDMAInfo (addTensorRDMAInfo .empty 0 ⟨4096, 1024, "rkey", (), some [2, 3]⟩) 0
        ⟨8192, 1024, "rkey", (), some [2, 3]⟩) :=
    .emplace h₁ he
  ⟨he, h, built_meta_inv _ h⟩

/-! ## Runs of the helpers -/

/-- A call of one of the two helpers. -/
inductive MetaOp (K N A : Type) where
  | add (tensor_key : K) (rdma_info : TensorRDMAInfo N A)
  | emplace (tensor_key : K) (addr : Ptr) (size : UInt64) (rkey : String) (node_info : N)
      (atensor : Option A)

section Runs

variable {K N A : Type} [DecidableEq K] (isShapeEqual : A → A → Bool)

/-- The key a call names. -/
def MetaOp.key : MetaOp K N A → K
  | .add k _ | .emplace k .. => k

/-- One call on the map. -/
def MetaOp.apply (m : TransferTensorMeta K N A) :
    MetaOp K N A → Except MetaFault (TransferTensorMeta K N A)
  | .add k info => .ok (addTensorRDMAInfo m k info)
  | .emplace k addr size rkey node_info atensor =>
    emplaceTensorRDMAInfo isShapeEqual m k addr size rkey node_info atensor

/-- Calls made in order on the map; the first that fails ends the run. -/
def runMetaOps (m : TransferTensorMeta K N A) :
    List (MetaOp K N A) → Except MetaFault (TransferTensorMeta K N A)
  | [] => .ok m
  | op :: ops => (op.apply isShapeEqual m).bind fun m' => runMetaOps m' ops

/-- One call that returns appends to the vector of its key, at most one entry, and leaves
every other key and the presence of every key as it was, its own key added. -/
theorem MetaOp.apply_grows {m m' : TransferTensorMeta K N A} {op : MetaOp K N A}
    (h : op.apply isShapeEqual m = .ok m') :
    (∀ k, (m k).getD [] <+: (m' k).getD []) ∧
      ∀ k, hasTensorRDMAInfo k m' = (decide (k = op.key) || hasTensorRDMAInfo k m) := by
  have add : ∀ k info, (∀ k', (m k').getD [] <+: (addTensorRDMAInfo m k info k').getD []) :=
    fun k info k' => by
      rw [addTensorRDMAInfo_apply]
      split
      · subst k'; exact List.prefix_append _ _
      · exact List.prefix_refl _
  cases op with
  | add k info =>
    cases h
    exact ⟨add k info, fun k' => add_has m k k' info⟩
  | emplace k addr size rkey node_info atensor =>
    refine ⟨?_, fun k' => emplace_has m k k' isShapeEqual h⟩
    rcases emplace_eq_ok _ h with ⟨-, rfl⟩ | ⟨rfl, -⟩
    exacts [fun _ => List.prefix_refl _, add k _]

/-- The helpers only ever append. Along every run of `Add` and `Emplace` calls that returns,
from any map, each key's vector at the start is a prefix of its vector at the end, so no
entry is lost, replaced or moved; no key is removed; and every key a call named is present
at the end. -/
theorem meta_ops_append_only (m : TransferTensorMeta K N A) (ops : List (MetaOp K N A))
    {m' : TransferTensorMeta K N A} (h : runMetaOps isShapeEqual m ops = .ok m') :
    (∀ k, (getTensorRDMAInfoVector k m).getD [] <+: (getTensorRDMAInfoVector k m').getD []) ∧
      (∀ k, hasTensorRDMAInfo k m = true → hasTensorRDMAInfo k m' = true) ∧
      ∀ op ∈ ops, hasTensorRDMAInfo op.key m' = true := by
  induction ops generalizing m with
  | nil => cases h; exact ⟨fun _ => List.prefix_refl _, fun _ => id, nofun⟩
  | cons op ops ih =>
    cases hop : op.apply isShapeEqual m with
    | error e => simp only [runMetaOps, hop, Except.bind] at h; cases h
    | ok m₁ =>
      simp only [runMetaOps, hop, Except.bind] at h
      obtain ⟨grow, has⟩ := MetaOp.apply_grows isShapeEqual hop
      obtain ⟨pre, keep, named⟩ := ih m₁ h
      refine ⟨fun k => (grow k).trans (pre k), fun k hk => keep k ?_, fun op' hop' => ?_⟩
      · rw [has k, hk, Bool.or_true]
      · rcases List.mem_cons.1 hop' with rfl | hop'
        · exact keep _ (by simp [has])
        · exact named op' hop'

/-- A run from a map whose key 1 holds an empty vector: the `Emplace` under key 0 appends,
the one under key 1 stores nothing, and the `Add` under key 1 appends. -/
theorem meta_ops_append_only_two_keys :
    let m : TransferTensorMeta Nat Unit (List Nat) :=
      Function.update
        (addTensorRDMAInfo .empty 0 ⟨4096, 1024, "rkey", (), some [2, 3]⟩) 1 (some [])
    let ops : List (MetaOp Nat Unit (List Nat)) := [.emplace 0 8192 1024 "rkey" () (some [2, 3]),
      .emplace 1 12288 512 "rkey" () (some [4]), .add 1 ⟨16384, 512, "rkey", (), some [4]⟩]
    let m' := addTensorRDMAInfo (addTensorRDMAInfo m 0 ⟨8192, 1024, "rkey", (), some [2, 3]⟩) 1
      ⟨16384, 512, "rkey", (), some [4]⟩
    runMetaOps (fun a b => a == b) m ops = .ok m' ∧
      ((∀ k, (getTensorRDMAInfoVector k m).getD [] <+: (getTensorRDMAInfoVector k m').getD []) ∧
        (∀ k, hasTensorRDMAInfo k m = true → hasTensorRDMAInfo k m' = true) ∧
        ∀ op ∈ ops, hasTensorRDMAInfo op.key m' = true) :=
  have h : runMetaOps (fun a b : List Nat => a == b)
      (Function.update (addTensorRDMAInfo .empty 0 ⟨4096, 1024, "rkey", (), some [2, 3]⟩) 1
        (some [])) [.emplace 0 8192 1024 "rkey" () (some [2, 3]),
          .emplace 1 12288 512 "rkey" () (some [4]),
            .add 1 ⟨16384, 512, "rkey", (), some [4]⟩] =
      .ok (addTensorRDMAInfo (addTensorRDMAInfo (Function.update (addTensorRDMAInfo .empty 0
        ⟨4096, 1024, "rkey", (), some [2, 3]⟩) 1 (some [])) 0
          ⟨8192, 1024, "rkey", (), some [2, 3]⟩)
          1 ⟨16384, 512, "rkey", (), some [4]⟩) := rfl
  ⟨h, meta_ops_append_only _ _ _ h⟩

end Runs

end AstateRdma
