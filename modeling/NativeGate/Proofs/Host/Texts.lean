import NativeGate.Proofs.Host.Layers

namespace NativeGate

section MapM

variable {α γ : Type} {f g : α → Option γ} {items : List α}

theorem mapM_congr (agree : ∀ item ∈ items, f item = g item) : items.mapM f = items.mapM g := by
  induction items with
  | nil => rfl
  | cons item rest ih =>
      obtain ⟨first, others⟩ := List.forall_mem_cons.mp agree
      rw [List.mapM_cons, List.mapM_cons, first, ih others]

theorem exists_mapM_eq_some (all : ∀ item ∈ items, (f item).isSome) :
    ∃ results, items.mapM f = some results := by
  induction items with
  | nil => exact ⟨[], rfl⟩
  | cons item rest ih =>
      obtain ⟨first, others⟩ := List.forall_mem_cons.mp all
      obtain ⟨result, found⟩ := Option.isSome_iff_exists.mp first
      obtain ⟨results, founds⟩ := ih others
      exact ⟨result :: results, by simp [List.mapM_cons, found, founds]⟩

end MapM

namespace Host

/-- The text of a value, made from the texts that `inner` gives for what the value contains. -/
def inspectLayer (host : Host) (inner : Value → Option Bytes) (v : Value) : Option Bytes :=
  match host.inspectLeaf? v with
  | some text => some text
  | none =>
      match host.objects.get? v with
      | some (.string s) => some (Quotation.quote s.bytes s.encoding)
      | some (.array elements) => do
          let texts ← elements.mapM inner
          return octets "[" ++ Bytes.joinWith (octets ", ") texts ++ octets "]"
      | some (.classDef _) => some (host.className v)
      | some (.record definition fields) => do
          let shown ← ((host.memberNames definition).zip fields).mapM fun (name, field) => do
            return name ++ octets "=" ++ (← inner field)
          return host.recordHead definition ++ Bytes.joinWith (octets ", ") shown ++ octets ">"
      | some (.exception definition message) =>
          some (octets "#<" ++ host.className definition ++ octets ": " ++ message ++ octets ">")
      | none => some (octets "#<Object:" ++ Numeral.address v.bits ++ octets ">")

theorem inspectWithin_succ (host : Host) (depth : Nat) (v : Value) :
    host.inspectWithin (depth + 1) v = host.inspectLayer (host.inspectWithin depth) v := by
  unfold inspectWithin inspectLayer
  rcases host.inspectLeaf? v with _ | text
  · rcases host.objects.get? v with _ | _ | _ | _ | _ | _ <;> rfl
  · rfl

/-- The value's text is made of the other's, among others. -/
def Contains (host : Host) (v w : Value) : Prop :=
  ∃ object, host.objects.get? v = some object ∧ w ∈ object.contents

variable {host : Host} {v : Value}

theorem inspectLayer_congr {f g : Value → Option Bytes}
    (agree : ∀ w, host.Contains v w → f w = g w) :
    host.inspectLayer f v = host.inspectLayer g v := by
  unfold inspectLayer
  cases host.inspectLeaf? v with
  | some text => rfl
  | none =>
      cases found : host.objects.get? v with
      | none => rfl
      | some object =>
          cases object with
          | array elements =>
              have same : elements.mapM f = elements.mapM g :=
                mapM_congr fun w member => agree w ⟨_, found, member⟩
              dsimp only
              rw [same]
          | record definition fields =>
              dsimp only
              rw [mapM_congr]
              rintro ⟨name, field⟩ member
              dsimp only
              rw [agree field ⟨_, found, (List.of_mem_zip member).2⟩]
          | _ => rfl

theorem inspectLayer_isSome {f : Value → Option Bytes}
    (inner : ∀ w, host.Contains v w → (f w).isSome) : (host.inspectLayer f v).isSome := by
  unfold inspectLayer
  cases host.inspectLeaf? v with
  | some text => rfl
  | none =>
      cases found : host.objects.get? v with
      | none => rfl
      | some object =>
          cases object with
          | array elements =>
              obtain ⟨texts, written⟩ :=
                exists_mapM_eq_some fun w member => inner w ⟨_, found, member⟩
              have written : elements.mapM f = some texts := written
              simp [written]
          | record definition fields =>
              have each (shown : Bytes × Value)
                  (member : shown ∈ (host.memberNames definition).zip fields) :
                  (do return shown.1 ++ octets "=" ++ (← f shown.2) : Option Bytes).isSome := by
                obtain ⟨text, written⟩ := Option.isSome_iff_exists.mp
                  (inner shown.2 ⟨_, found, (List.of_mem_zip member).2⟩)
                simp [written]
              obtain ⟨texts, written⟩ := exists_mapM_eq_some each
              dsimp only
              rw [written]
              rfl
          | _ => rfl

theorem inspectWithin_of_missing (missing : host.objects.get? v = none) (depth : Nat)
    (f : Value → Option Bytes) : host.inspectWithin depth v = host.inspectLayer f v := by
  cases leaf : host.inspectLeaf? v with
  | some text => simp [inspectWithin, inspectLayer, leaf]
  | none => simp [inspectWithin, inspectLayer, leaf, missing]

theorem inspectWithin_isSome_of_missing (missing : host.objects.get? v = none) (depth : Nat) :
    (host.inspectWithin depth v).isSome := by
  rw [inspectWithin_of_missing missing depth fun _ => none]
  refine inspectLayer_isSome fun w contains => ?_
  obtain ⟨object, found, -⟩ := contains
  rw [missing] at found
  cases found

theorem get?_of_below_zero (host : Host) (below : v.Below 0) : host.objects.get? v = none := by
  cases indexed : v.handleIndex? with
  | none => rw [ObjectTable.get?, indexed, Option.bind_none]
  | some index => exact absurd (below index indexed) (Nat.not_lt_zero _)

theorem below_size {object : Object} (found : host.objects.get? v = some object) :
    v.Below host.objects.size := by
  intro index indexed
  rw [ObjectTable.get?, indexed, Option.bind_some] at found
  exact (Array.getElem?_eq_some_iff.mp found).1

section Layered

variable (layered : host.objects.Layered)

include layered

theorem Contains.below {w : Value} (contains : host.Contains v w) :
    ∃ container, v.handleIndex? = some container ∧ container.toNat < host.objects.size ∧
      w.Below container.toNat := by
  obtain ⟨object, found, member⟩ := contains
  obtain ⟨container, indexed, stored⟩ := Option.bind_eq_some_iff.mp found
  exact ⟨container, indexed, (Array.getElem?_eq_some_iff.mp stored).1,
    layered container.toNat object stored w member⟩

theorem contains_wellFounded : WellFounded fun w v => host.Contains v w := by
  let rank (v : Value) : Nat := v.handleIndex?.elim 0 (·.toNat + 1)
  refine Subrelation.wf ?_ (InvImage.wf rank Nat.lt_wfRel.wf)
  intro w v contains
  obtain ⟨container, indexed, -, below⟩ := contains.below layered
  change rank w < rank v
  simp only [rank, indexed, Option.elim]
  cases inner : w.handleIndex? with
  | none => exact Nat.succ_pos _
  | some index => exact Nat.succ_lt_succ (below index inner)

theorem Contains.lower {w : Value} (contains : host.Contains v w) {bound : Nat}
    (below : v.Below (bound + 1)) : w.Below bound := by
  obtain ⟨container, indexed, -, inner⟩ := contains.below layered
  intro index inside
  exact Nat.lt_of_lt_of_le (inner index inside) (Nat.le_of_lt_succ (below container indexed))

theorem inspectWithin_eq {bound depth : Nat} (below : v.Below bound) (deep : bound ≤ depth) :
    host.inspectWithin depth v = host.inspectWithin bound v := by
  induction bound generalizing v depth with
  | zero =>
      have leaf := inspectWithin_of_missing (host.get?_of_below_zero below)
      rw [leaf depth fun _ => none, leaf 0 fun _ => none]
  | succ bound ih =>
      obtain ⟨depth, rfl⟩ := Nat.exists_eq_add_of_le' deep
      change host.inspectWithin (depth + bound + 1) v = _
      rw [inspectWithin_succ, inspectWithin_succ]
      refine inspectLayer_congr fun w contains => ?_
      exact ih (contains.lower layered below) (Nat.le_add_left bound depth)

theorem inspectWithin_isSome {bound : Nat} (below : v.Below bound) :
    (host.inspectWithin bound v).isSome := by
  induction bound generalizing v with
  | zero => exact inspectWithin_isSome_of_missing (host.get?_of_below_zero below) 0
  | succ bound ih =>
      rw [inspectWithin_succ]
      exact inspectLayer_isSome fun w contains => ih (contains.lower layered below)

theorem inspect?_isSome (v : Value) : (host.inspect? v).isSome := by
  cases found : host.objects.get? v with
  | none => exact inspectWithin_isSome_of_missing found _
  | some object => exact inspectWithin_isSome layered (below_size found)

theorem inspect?_eq_layer (v : Value) : host.inspect? v = host.inspectLayer host.inspect? v := by
  cases found : host.objects.get? v with
  | none => exact inspectWithin_of_missing found _ _
  | some object =>
      have below := below_size found
      obtain ⟨index, indexed, -⟩ := Option.bind_eq_some_iff.mp found
      obtain ⟨n, size⟩ : ∃ n, host.objects.size = n + 1 :=
        Nat.exists_eq_add_one.mpr (Nat.zero_lt_of_lt (below index indexed))
      rw [size] at below
      have unfolded : host.inspect? v = host.inspectLayer (host.inspectWithin n) v := by
        rw [inspect?, size, inspectWithin_succ]
      rw [unfolded]
      refine inspectLayer_congr fun w contains => ?_
      exact (inspectWithin_eq layered (contains.lower layered below) (by omega)).symm

end Layered

end Host

end NativeGate
