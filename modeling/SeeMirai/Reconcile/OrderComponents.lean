/-
Canonical orders among the exchange order snapshots of a reconcile run (infrastructure/db/live-reconcile/repository.ts).
Rows that share an exchange order id or an identifier are snapshots of one order; both counts join the two kinds of key
with union-find. A row with neither stands for itself.

Captured times are milliseconds.

Results:
- `same_order_iff`: two keys have one root exactly when their rows are connected.
- `countCanonical_eq`: the first count is the number of connected components and of rows without a key.
- `countCanonicalOpen_eq`: the second count takes the last of the newest snapshots of each component, in row order.
- `counts_components_iff`: where this is the count of orders whose latest snapshot is open, whatever the row order.
-/
import SeeMirai.Lib.UnionFind

namespace SeeMirai.Reconcile

open UnionFind

/-! ## Model -/

/-- a row of the snapshot table -/
structure ExchangeOrderSnapshotRow where
  id : String
  exchange_order_id : Option String
  identifier : Option String
  status : String
  captured_at : ℤ
deriving DecidableEq, Repr

def openExchangeOrderStatuses : List String := ["wait", "watch", "open", "OPEN"]

def terminalExchangeOrderStatuses : List String := ["done", "cancel", "DONE", "CANCEL"]

def isOpenExchangeOrderStatus (status : String) : Bool := openExchangeOrderStatuses.contains status

/-- the source has this test and never uses it -/
def isTerminalExchangeOrderStatus (status : String) : Bool := terminalExchangeOrderStatuses.contains status

namespace ExchangeOrderSnapshotRow

def exchangeOrderKey (row : ExchangeOrderSnapshotRow) : Option String := row.exchange_order_id.map ("exchange:" ++ ·)

def identifierKey (row : ExchangeOrderSnapshotRow) : Option String := row.identifier.map ("identifier:" ++ ·)

/-- the key a row is looked up by; `none` for a row that only has its fingerprint -/
def key (row : ExchangeOrderSnapshotRow) : Option String := row.exchangeOrderKey.or row.identifierKey

end ExchangeOrderSnapshotRow

open ExchangeOrderSnapshotRow

/-- one turn of the first count -/
def joinRow (state : InsertionMap String String × ℕ) (row : ExchangeOrderSnapshotRow) :
    Option (InsertionMap String String × ℕ) :=
  match row.exchangeOrderKey, row.identifierKey with
  | none, none => some (state.1, state.2 + 1)
  | some exchangeOrderKey, none => (find state.1 exchangeOrderKey).map fun found => (found.2, state.2)
  | none, some identifierKey => (find state.1 identifierKey).map fun found => (found.2, state.2)
  | some exchangeOrderKey, some identifierKey => do
    let exchangeFound ← find state.1 exchangeOrderKey
    let identifierFound ← find exchangeFound.2 identifierKey
    let parent ← union identifierFound.2 exchangeOrderKey identifierKey
    some (parent, state.2)

def countCanonicalExchangeOrderSnapshots (rows : List ExchangeOrderSnapshotRow) : Option ℕ := do
  let joined ← rows.foldlM joinRow (InsertionMap.empty, 0)
  (distinctRoots joined.1).map fun roots => roots.length + joined.2

structure KeyedRow where
  key : String
  status : String
  capturedAtMs : ℤ
deriving DecidableEq, Repr

structure LatestState where
  capturedAtMs : ℤ
  status : String
deriving DecidableEq, Repr

structure OpenScan where
  parent : InsertionMap String String
  keyedRows : List KeyedRow
  fingerprintOnlyOpenRowCount : ℕ

def OpenScan.push (scan : OpenScan) (key : String) (row : ExchangeOrderSnapshotRow) : OpenScan :=
  { scan with keyedRows := scan.keyedRows ++ [⟨key, row.status, row.captured_at⟩] }

/-- one turn of the first loop: only a row with both keys joins them -/
def scanRow (scan : OpenScan) (row : ExchangeOrderSnapshotRow) : Option OpenScan :=
  match row.exchangeOrderKey, row.identifierKey with
  | none, none =>
    some (if isOpenExchangeOrderStatus row.status then
      { scan with fingerprintOnlyOpenRowCount := scan.fingerprintOnlyOpenRowCount + 1 } else scan)
  | some exchangeOrderKey, none => some (scan.push exchangeOrderKey row)
  | none, some identifierKey => some (scan.push identifierKey row)
  | some exchangeOrderKey, some identifierKey =>
    (union scan.parent exchangeOrderKey identifierKey).map fun parent =>
      OpenScan.push { scan with parent := parent } exchangeOrderKey row

/-- the later row wins at an equal time -/
def keepLatestState (groups : InsertionMap String LatestState) (root : String) (row : KeyedRow) :
    InsertionMap String LatestState :=
  match groups.get root with
  | none => groups.set root ⟨row.capturedAtMs, row.status⟩
  | some existing =>
    if existing.capturedAtMs ≤ row.capturedAtMs then groups.set root ⟨row.capturedAtMs, row.status⟩ else groups

/-- one turn of the second loop -/
def groupRow (state : InsertionMap String String × InsertionMap String LatestState) (row : KeyedRow) :
    Option (InsertionMap String String × InsertionMap String LatestState) :=
  (find state.1 row.key).map fun found => (found.2, keepLatestState state.2 found.1 row)

def countCanonicalOpenExchangeOrderSnapshots (rows : List ExchangeOrderSnapshotRow) : Option ℕ := do
  let scan ← rows.foldlM scanRow ⟨InsertionMap.empty, [], 0⟩
  let grouped ← scan.keyedRows.foldlM groupRow (scan.parent, InsertionMap.empty)
  some (scan.fingerprintOnlyOpenRowCount +
    (grouped.2.entries.filter fun entry => isOpenExchangeOrderStatus entry.2.status).length)

/-! ## Orders -/

namespace ExchangeOrderSnapshotRow

def Keyed (row : ExchangeOrderSnapshotRow) : Prop := row.exchange_order_id ≠ none ∨ row.identifier ≠ none

instance (row : ExchangeOrderSnapshotRow) : Decidable row.Keyed := inferInstanceAs (Decidable (_ ∨ _))

theorem prefixed_inj {mark s t : String} (h : mark ++ s = mark ++ t) : s = t := by
  have hlist := congrArg String.toList h
  simp only [String.toList_append] at hlist
  exact String.toList_inj.1 (List.append_cancel_left hlist)

/-- two snapshots with a common exchange order id or a common identifier -/
def Shares (a b : ExchangeOrderSnapshotRow) : Prop :=
  (∃ uuid, a.exchange_order_id = some uuid ∧ b.exchange_order_id = some uuid) ∨
    ∃ identifier, a.identifier = some identifier ∧ b.identifier = some identifier

def HasKey (row : ExchangeOrderSnapshotRow) (k : String) : Prop := row.exchangeOrderKey = some k ∨
    row.identifierKey = some k

theorem keys_disjoint {a b : ExchangeOrderSnapshotRow} {k : String} (ha : a.exchangeOrderKey = some k) :
    b.identifierKey ≠ some k := by
  intro hb
  obtain ⟨uuid, -, rfl⟩ := Option.map_eq_some_iff.1 ha
  obtain ⟨identifier, -, heq⟩ := Option.map_eq_some_iff.1 hb
  have hlist := congrArg (fun s => s.toList.head?) heq
  simp [String.toList_append] at hlist

theorem shares_iff {a b : ExchangeOrderSnapshotRow} : a.Shares b ↔ ∃ k, a.HasKey k ∧ b.HasKey k := by
  constructor
  · intro h
    rcases h with ⟨uuid, ha, hb⟩ | ⟨identifier, ha, hb⟩
    · exact ⟨"exchange:" ++ uuid, Or.inl (by simp [exchangeOrderKey, ha]), Or.inl (by simp [exchangeOrderKey, hb])⟩
    · exact ⟨"identifier:" ++ identifier, Or.inr (by simp [identifierKey, ha]), Or.inr (by simp [identifierKey, hb])⟩
  · intro h
    obtain ⟨k, ha | ha, hb | hb⟩ := h
    · obtain ⟨uuid, huuid, rfl⟩ := Option.map_eq_some_iff.1 ha
      obtain ⟨uuid', hsame, heq⟩ := Option.map_eq_some_iff.1 hb
      obtain rfl := prefixed_inj heq
      exact Or.inl ⟨uuid', huuid, hsame⟩
    · exact absurd hb (keys_disjoint ha)
    · exact absurd ha (keys_disjoint hb)
    · obtain ⟨identifier, hidentifier, rfl⟩ := Option.map_eq_some_iff.1 ha
      obtain ⟨identifier', hsame, heq⟩ := Option.map_eq_some_iff.1 hb
      obtain rfl := prefixed_inj heq
      exact Or.inr ⟨identifier', hidentifier, hsame⟩

theorem keyed_iff {row : ExchangeOrderSnapshotRow} : row.Keyed ↔ ∃ k, row.HasKey k := by
  unfold Keyed HasKey exchangeOrderKey identifierKey
  cases row.exchange_order_id <;> cases row.identifier <;> simp

theorem key_eq_none_iff {row : ExchangeOrderSnapshotRow} : row.key = none ↔ ¬ row.Keyed := by
  unfold Keyed key exchangeOrderKey identifierKey
  cases row.exchange_order_id <;> cases row.identifier <;> simp

theorem hasKey_key {row : ExchangeOrderSnapshotRow} {k : String} (h : row.key = some k) : row.HasKey k := by
  unfold key at h
  rcases Option.or_eq_some_iff.1 h with h | ⟨-, h⟩
  · exact Or.inl h
  · exact Or.inr h

end ExchangeOrderSnapshotRow

/-- the snapshots that have a key -/
abbrev Vertex (S : Set ExchangeOrderSnapshotRow) := {row : ExchangeOrderSnapshotRow // row ∈ S ∧ row.Keyed}

/-- a connected component: the snapshots of one order -/
def Component (S : Set ExchangeOrderSnapshotRow) := Quot fun a b : Vertex S => a.1.Shares b.1

def Component.of {S : Set ExchangeOrderSnapshotRow} (row : Vertex S) : Component S := Quot.mk _ row

/-- the two keys of a row -/
def Bridge (S : Set ExchangeOrderSnapshotRow) (a b : String) : Prop :=
  ∃ row ∈ S, row.exchangeOrderKey = some a ∧ row.identifierKey = some b

variable {S : Set ExchangeOrderSnapshotRow}

theorem hasKey_connected {row : ExchangeOrderSnapshotRow} (hrow : row ∈ S) {k l : String} (hk : row.HasKey k)
    (hl : row.HasKey l) : Relation.EqvGen (Bridge S) k l := by
  rcases hk with hk | hk
  · rcases hl with hl | hl
    · obtain rfl := Option.some.inj (hk.symm.trans hl)
      exact .refl _
    · exact .rel _ _ ⟨row, hrow, hk, hl⟩
  · rcases hl with hl | hl
    · exact .symm _ _ (.rel _ _ ⟨row, hrow, hl, hk⟩)
    · obtain rfl := Option.some.inj (hk.symm.trans hl)
      exact .refl _

/-- connected keys belong to one order -/
theorem component_of_connected {k l : String} (h : Relation.EqvGen (Bridge S) k l) :
    (∀ a b : Vertex S, a.1.HasKey k → b.1.HasKey l → Component.of a = Component.of b) ∧
      ((∃ a : Vertex S, a.1.HasKey k) ↔ ∃ b : Vertex S, b.1.HasKey l) := by
  induction h with
  | rel k l hbridge =>
    obtain ⟨row, hrow, hk, hl⟩ := hbridge
    have hkeyed : row.Keyed := keyed_iff.2 ⟨k, Or.inl hk⟩
    refine ⟨fun a b ha hb => ?_, fun _ => ⟨⟨row, hrow, hkeyed⟩, Or.inr hl⟩, fun _ => ⟨⟨row, hrow, hkeyed⟩, Or.inl hk⟩⟩
    calc Component.of a = Component.of ⟨row, hrow, hkeyed⟩ := Quot.sound (shares_iff.2 ⟨k, ha, Or.inl hk⟩)
      _ = Component.of b := Quot.sound (shares_iff.2 ⟨l, Or.inr hl, hb⟩)
  | refl k => exact ⟨fun a b ha hb => Quot.sound (shares_iff.2 ⟨k, ha, hb⟩), Iff.rfl⟩
  | symm k l _ ih => exact ⟨fun a b ha hb => (ih.1 b a hb ha).symm, ih.2.symm⟩
  | trans k l m _ _ ih ih' =>
    refine ⟨fun a b ha hb => ?_, ih.2.trans ih'.2⟩
    obtain ⟨c, hc⟩ := ih.2.1 ⟨a, ha⟩
    exact (ih.1 a c ha hc).trans (ih'.1 c b hc hb)

/-- rows of one order have connected keys -/
theorem connected_of_component {a b : Vertex S} (h : Component.of a = Component.of b) :
    ∀ k l, a.1.HasKey k → b.1.HasKey l → Relation.EqvGen (Bridge S) k l := by
  have hgen : Relation.EqvGen (fun a b : Vertex S => a.1.Shares b.1) a b := Quot.eqvGen_exact h
  induction hgen with
  | rel a b hshares =>
    intro k l hk hl
    obtain ⟨m, ha, hb⟩ := shares_iff.1 hshares
    exact (hasKey_connected a.2.1 hk ha).trans _ _ _ (hasKey_connected b.2.1 hb hl)
  | refl a => exact fun k l hk hl => hasKey_connected a.2.1 hk hl
  | symm a b hab ih => exact fun k l hk hl => .symm _ _ (ih (Quot.eqvGen_sound hab) l k hl hk)
  | trans a b c hab hbc ih ih' =>
    intro k l hk hl
    obtain ⟨m, hm⟩ := keyed_iff.1 b.2.2
    exact (ih (Quot.eqvGen_sound hab) k m hk hm).trans _ _ _ (ih' (Quot.eqvGen_sound hbc) m l hm hl)

/-- **Orders.** Two keys have one root exactly when their rows are snapshots of one order. -/
theorem same_order_iff {parent : InsertionMap String String} (h : Represents parent (Bridge S)) {a b : Vertex S}
    {k l : String} (ha : a.1.HasKey k) (hb : b.1.HasKey l) :
    rootOf parent k = rootOf parent l ↔ Component.of a = Component.of b := by
  rw [rootOf_eq_iff h]
  exact ⟨fun hconnected => (component_of_connected hconnected).1 a b ha hb,
    fun hsame => connected_of_component hsame k l ha hb⟩

/-! ## First count -/

/-- a pass that never gets stuck keeps an invariant over what it has visited -/
theorem foldlM_option_history {α β : Type*} {f : β → α → Option β} (P : List α → β → Prop) {b : β} (hinit : P [] b)
    (hstep : ∀ visited x b, P visited b → ∃ b', f b x = some b' ∧ P (visited ++ [x]) b') (xs : List α) :
    ∃ b', xs.foldlM f b = some b' ∧ P xs b' := by
  induction xs using List.reverseRecOn with
  | nil => exact ⟨b, rfl, hinit⟩
  | append_singleton xs x ih =>
    obtain ⟨b', hfold, hb'⟩ := ih
    obtain ⟨b'', hlast, hb''⟩ := hstep xs x b' hb'
    exact ⟨b'', by rw [List.foldlM_append, hfold]; simpa using hlast, hb''⟩

/-- after some rows: their keys have roots, joined by the rows with two keys -/
structure Joined (visited : List ExchangeOrderSnapshotRow) (state : InsertionMap String String × ℕ) : Prop where
  represents : Represents state.1 (Bridge {row | row ∈ visited})
  domain : ∀ k, (∃ r, Root state.1 k r) ↔ ∃ row ∈ visited, row.HasKey k
  fingerprintOnly : state.2 = (visited.filter fun row => ¬ row.Keyed).length

/-- one more row, without a bridge or with one -/
theorem bridge_snoc (visited : List ExchangeOrderSnapshotRow) (row : ExchangeOrderSnapshotRow) :
    Bridge {r | r ∈ visited ++ [row]} = fun a b =>
      Bridge {r | r ∈ visited} a b ∨ row.exchangeOrderKey = some a ∧ row.identifierKey = some b := by
  funext a b
  simp only [Bridge, Set.mem_ofPred_eq, List.mem_append, List.mem_singleton, or_and_right, exists_or, exists_eq_left]

theorem bridge_snoc_single (visited : List ExchangeOrderSnapshotRow) {row : ExchangeOrderSnapshotRow}
    (h : row.exchangeOrderKey = none ∨ row.identifierKey = none) :
    Bridge {r | r ∈ visited ++ [row]} = Bridge {r | r ∈ visited} := by
  rw [bridge_snoc]
  funext a b
  rcases h with h | h
  · simp [h]
  · simp [h]

/-- a row with one key is looked up -/
theorem Joined.lookup {visited : List ExchangeOrderSnapshotRow} {row : ExchangeOrderSnapshotRow}
    {state : InsertionMap String String × ℕ} (h : Joined visited state) {key : String}
    (hkey : ∀ k, row.HasKey k ↔ k = key) (hmissing : row.exchangeOrderKey = none ∨ row.identifierKey = none) :
    ∃ state', (find state.1 key).map (fun found => (found.2, state.2)) = some state' ∧
      Joined (visited ++ [row]) state' := by
  obtain ⟨parent, hfind, hrepresents, -, hdomain⟩ := find_rootOf h.represents key
  have hkeyed : row.Keyed := keyed_iff.2 ⟨key, (hkey key).2 rfl⟩
  refine ⟨(parent, state.2), by rw [hfind]; rfl, ?_, fun k => ?_, ?_⟩
  · rw [bridge_snoc_single visited hmissing]
    exact hrepresents
  · rw [hdomain, h.domain]
    simp [hkey, or_and_right, exists_or]
  · simp [h.fingerprintOnly, List.filter_append, hkeyed]

/-- **One row.** -/
theorem joinRow_joined {visited : List ExchangeOrderSnapshotRow} {row : ExchangeOrderSnapshotRow}
    {state : InsertionMap String String × ℕ} (h : Joined visited state) :
    ∃ state', joinRow state row = some state' ∧ Joined (visited ++ [row]) state' := by
  unfold joinRow
  cases hexchange : row.exchangeOrderKey with
  | none =>
    cases hidentifier : row.identifierKey with
    | none =>
      have hunkeyed : ¬ row.Keyed := fun hkeyed => by
        obtain ⟨k, hk⟩ := keyed_iff.1 hkeyed
        simp [HasKey, hexchange, hidentifier] at hk
      refine ⟨_, rfl, ?_, fun k => ?_, ?_⟩
      · rw [bridge_snoc_single visited (Or.inl hexchange)]
        exact h.represents
      · rw [h.domain]
        simp [HasKey, hexchange, hidentifier, or_and_right, exists_or]
      · simp [h.fingerprintOnly, List.filter_append, hunkeyed]
    | some identifierKey =>
      refine h.lookup (fun k => ?_) (Or.inl hexchange)
      simp [HasKey, hexchange, hidentifier, eq_comm]
  | some exchangeOrderKey =>
    cases hidentifier : row.identifierKey with
    | none =>
      refine h.lookup (fun k => ?_) (Or.inr hidentifier)
      simp [HasKey, hexchange, hidentifier, eq_comm]
    | some identifierKey =>
      have hkeyed : row.Keyed := keyed_iff.2 ⟨exchangeOrderKey, Or.inl hexchange⟩
      obtain ⟨parent₁, hfind₁, h₁, -, hdomain₁⟩ := find_rootOf h.represents exchangeOrderKey
      obtain ⟨parent₂, hfind₂, h₂, -, hdomain₂⟩ := find_rootOf h₁ identifierKey
      obtain ⟨parent₃, hunion, h₃, hdomain₃⟩ := represents_union h₂ exchangeOrderKey identifierKey
      refine ⟨(parent₃, state.2), by simp [hfind₁, hfind₂, hunion], ?_, fun k => ?_, ?_⟩
      · rw [bridge_snoc, hexchange, hidentifier]
        simpa [eq_comm] using h₃
      · rw [hdomain₃, hdomain₂, hdomain₁, h.domain]
        simp only [HasKey, List.mem_append, List.mem_singleton, or_and_right, exists_or, exists_eq_left, hexchange,
          hidentifier, Option.some.injEq, eq_comm (a := k)]
        rw [or_assoc (c := identifierKey = k), or_assoc, or_self]
      · simp [h.fingerprintOnly, List.filter_append, hkeyed]

/-- a map that separates orders counts them by its values -/
theorem card_eq_length {C V : Type*} {f : C → V} (hf : Function.Injective f) {P : C → Prop} {values : List V}
    (hnodup : values.Nodup) (hmem : ∀ v, v ∈ values ↔ ∃ c, P c ∧ f c = v) :
    Nat.card {c // P c} = values.length := by
  classical
  have himage : Nat.card {c // P c} = Nat.card {v // v ∈ values} := by
    refine Nat.card_congr (Equiv.ofBijective (fun c => ⟨f c.1, (hmem _).2 ⟨c.1, c.2, rfl⟩⟩)
      ⟨fun c c' h => ?_, fun v => ?_⟩)
    · exact Subtype.ext (hf (congrArg Subtype.val h))
    · obtain ⟨c, hc, hv⟩ := (hmem v.1).1 v.2
      exact ⟨⟨c, hc⟩, Subtype.ext hv⟩
  rw [himage, ← List.toFinset_card_of_nodup hnodup, ← Nat.card_eq_finsetCard]
  exact Nat.card_congr (Equiv.subtypeEquivRight fun v => List.mem_toFinset.symm)

/-- the root of an order -/
noncomputable def Component.root {parent : InsertionMap String String} (h : Represents parent (Bridge S)) :
    Component S → String :=
  Quot.lift (fun row => rootOf parent (keyed_iff.1 row.2.2).choose) fun a b hshares =>
    (same_order_iff h (keyed_iff.1 a.2.2).choose_spec (keyed_iff.1 b.2.2).choose_spec).2 (Quot.sound hshares)

theorem Component.root_of {parent : InsertionMap String String} (h : Represents parent (Bridge S)) {row : Vertex S}
    {k : String} (hk : row.1.HasKey k) : Component.root h (Component.of row) = rootOf parent k :=
  (same_order_iff h (keyed_iff.1 row.2.2).choose_spec hk).2 rfl

theorem Component.root_injective {parent : InsertionMap String String} (h : Represents parent (Bridge S)) :
    Function.Injective (Component.root h) := by
  intro c d heq
  induction c using Quot.ind with
  | mk a =>
    induction d using Quot.ind with
    | mk b => exact (same_order_iff h (keyed_iff.1 a.2.2).choose_spec (keyed_iff.1 b.2.2).choose_spec).1 heq

theorem joined_nil : Joined [] (InsertionMap.empty, 0) := by
  refine ⟨represents_empty fun a b h => ?_, fun k => ?_, rfl⟩
  · obtain ⟨row, hrow, -⟩ := h
    cases hrow
  · constructor
    · rintro ⟨r, hr⟩
      exact absurd (InsertionMap.get_empty k) hr.get_ne_none
    · rintro ⟨row, hrow, -⟩
      cases hrow

/-- **First count.** One for each connected component and for each row without a key. -/
theorem countCanonical_eq (rows : List ExchangeOrderSnapshotRow) :
    countCanonicalExchangeOrderSnapshots rows =
      some (Nat.card (Component {row | row ∈ rows}) + (rows.filter fun row => ¬ row.Keyed).length) := by
  obtain ⟨state, hfold, hjoined⟩ := foldlM_option_history Joined joined_nil (fun _ _ _ h => joinRow_joined h) rows
  obtain ⟨roots, hroots, hnodup, hmem⟩ := distinctRoots_spec hjoined.represents
  have hcard : Nat.card (Component {row | row ∈ rows}) = roots.length := by
    rw [← Nat.card_congr (Equiv.subtypeUnivEquiv fun _ : Component {row | row ∈ rows} => trivial)]
    refine card_eq_length (Component.root_injective hjoined.represents) hnodup fun r => ?_
    rw [hmem]
    constructor
    · rintro ⟨k, hk⟩
      obtain ⟨row, hrow, hkey⟩ := (hjoined.domain k).1 ⟨r, hk⟩
      refine ⟨Component.of ⟨row, hrow, keyed_iff.2 ⟨k, hkey⟩⟩, trivial, ?_⟩
      rw [Component.root_of hjoined.represents hkey, rootOf_eq hk]
    · rintro ⟨c, -, rfl⟩
      induction c using Quot.ind with
      | mk row =>
        obtain ⟨k, hk⟩ := keyed_iff.1 row.2.2
        obtain ⟨r, hr⟩ := (hjoined.domain k).2 ⟨row.1, row.2.1, hk⟩
        refine ⟨k, ?_⟩
        have hroot : Component.root hjoined.represents (Component.of row) = r := by
          rw [Component.root_of hjoined.represents hk, rootOf_eq hr]
        exact hroot ▸ hr
  unfold countCanonicalExchangeOrderSnapshots
  rw [hfold, hcard, ← hjoined.fingerprintOnly]
  simp [hroots]

/-! ## Second count -/

/-- what a group keeps of its snapshots -/
def keepState (kept : Option LatestState) (state : LatestState) : Option LatestState :=
  match kept with
  | none => some state
  | some existing => if existing.capturedAtMs ≤ state.capturedAtMs then some state else some existing

def newest (states : List LatestState) : Option LatestState := states.foldl keepState none

theorem newest_mem {states : List LatestState} {kept : LatestState} (h : newest states = some kept) : kept ∈ states :=
    by
  induction states using List.reverseRecOn generalizing kept with
  | nil => cases h
  | append_singleton states state ih =>
    rw [newest, List.foldl_append] at h
    change keepState (newest states) state = some kept at h
    unfold keepState at h
    split at h
    · rw [← Option.some.inj h]
      simp
    · rename_i existing hexisting
      split_ifs at h
      · rw [← Option.some.inj h]
        simp
      · rw [← Option.some.inj h]
        exact List.mem_append_left _ (ih hexisting)

/-- the kept state is the last of the newest ones -/
theorem newest_iff {states : List LatestState} {kept : LatestState} : newest states = some kept ↔
    ∃ before after, states = before ++ kept :: after ∧ (∀ state ∈ before, state.capturedAtMs ≤ kept.capturedAtMs) ∧
      ∀ state ∈ after, state.capturedAtMs < kept.capturedAtMs := by
  constructor
  · intro h
    induction states using List.reverseRecOn generalizing kept with
    | nil => cases h
    | append_singleton states state ih =>
      rw [newest, List.foldl_append] at h
      change keepState (newest states) state = some kept at h
      unfold keepState at h
      split at h
      · rename_i hnone
        have hempty : states = [] := by
          rcases List.eq_nil_or_concat states with rfl | ⟨front, last, rfl⟩
          · rfl
          · rw [newest, List.concat_eq_append, List.foldl_append] at hnone
            change keepState (newest front) last = none at hnone
            unfold keepState at hnone
            split at hnone
            · cases hnone
            · split_ifs at hnone
        obtain rfl := Option.some.inj h
        exact ⟨[], [], by simp [hempty], by simp, by simp⟩
      · rename_i existing hexisting
        obtain ⟨before, after, hsplit, hbefore, hafter⟩ := ih hexisting
        split_ifs at h with hnewer
        · obtain rfl := Option.some.inj h
          refine ⟨states, [], by simp, fun other hother => ?_, by simp⟩
          rw [hsplit] at hother
          rcases List.mem_append.1 hother with hin | hin
          · exact (hbefore other hin).trans hnewer
          · rcases List.mem_cons.1 hin with rfl | hin
            · exact hnewer
            · exact (hafter other hin).le.trans hnewer
        · obtain rfl := Option.some.inj h
          refine ⟨before, after ++ [state], by simp [hsplit], hbefore, fun other hother => ?_⟩
          rcases List.mem_append.1 hother with hin | hin
          · exact hafter other hin
          · rw [List.mem_singleton] at hin
            subst hin
            exact not_le.1 hnewer
  · intro h
    obtain ⟨before, after, rfl, hbefore, hafter⟩ := h
    have hkept : keepState (newest before) kept = some kept := by
      unfold keepState
      split
      · rfl
      · rename_i existing hexisting
        rw [if_pos (hbefore existing (newest_mem hexisting))]
    rw [newest, List.foldl_append, List.foldl_cons]
    change after.foldl keepState (keepState (newest before) kept) = some kept
    rw [hkept]
    induction after with
    | nil => rfl
    | cons state after ih =>
      have hstay : keepState (some kept) state = some kept := if_neg (not_le.2 (hafter state List.mem_cons_self))
      rw [List.foldl_cons, hstay]
      exact ih fun other hother => hafter other (List.mem_cons_of_mem _ hother)

theorem keepLatestState_get (groups : InsertionMap String LatestState) (root : String) (row : KeyedRow) (k : String) :
    (keepLatestState groups root row).get k =
      if root = k then keepState (groups.get k) ⟨row.capturedAtMs, row.status⟩ else groups.get k := by
  unfold keepLatestState keepState
  by_cases hk : root = k
  · subst hk
    rw [if_pos rfl]
    cases hget : groups.get root with
    | none => simp
    | some existing =>
      dsimp only
      split_ifs with hnewer
      · simp
      · exact hget
  · rw [if_neg hk]
    split
    · exact groups.get_set_ne _ hk
    · split_ifs
      · exact groups.get_set_ne _ hk
      · rfl

def toKeyedRow (row : ExchangeOrderSnapshotRow) : Option KeyedRow :=
  row.key.map fun key => ⟨key, row.status, row.captured_at⟩

/-- after some rows of the first loop -/
structure Scanned (visited : List ExchangeOrderSnapshotRow) (scan : OpenScan) : Prop where
  represents : Represents scan.parent (Bridge {row | row ∈ visited})
  keyedRows : scan.keyedRows = visited.filterMap toKeyedRow
  fingerprintOnly : scan.fingerprintOnlyOpenRowCount =
    (visited.filter fun row => ¬ row.Keyed ∧ isOpenExchangeOrderStatus row.status).length

theorem scanRow_scanned {visited : List ExchangeOrderSnapshotRow} {row : ExchangeOrderSnapshotRow} {scan : OpenScan}
    (h : Scanned visited scan) : ∃ scan', scanRow scan row = some scan' ∧ Scanned (visited ++ [row]) scan' := by
  have hpush : ∀ {key : String} {parent : InsertionMap String String}, row.key = some key →
      Represents parent (Bridge {r | r ∈ visited ++ [row]}) →
      Scanned (visited ++ [row]) (OpenScan.push { scan with parent := parent } key row) := by
    intro key parent hkey hparent
    have hkeyed : row.Keyed := by
      by_contra hunkeyed
      rw [key_eq_none_iff.2 hunkeyed] at hkey
      cases hkey
    refine ⟨hparent, ?_, ?_⟩
    · simp [OpenScan.push, h.keyedRows, toKeyedRow, hkey]
    · simp [OpenScan.push, h.fingerprintOnly, List.filter_append, hkeyed]
  unfold scanRow
  cases hexchange : row.exchangeOrderKey with
  | none =>
    cases hidentifier : row.identifierKey with
    | none =>
      have hkey : row.key = none := by simp [ExchangeOrderSnapshotRow.key, hexchange, hidentifier]
      have hunkeyed : ¬ row.Keyed := key_eq_none_iff.1 hkey
      refine ⟨_, rfl, ?_⟩
      split_ifs with hopen
      · refine ⟨?_, ?_, ?_⟩
        · rw [bridge_snoc_single visited (Or.inl hexchange)]
          exact h.represents
        · simp [h.keyedRows, toKeyedRow, hkey]
        · simp [h.fingerprintOnly, List.filter_append, hunkeyed, hopen]
      · refine ⟨?_, ?_, ?_⟩
        · rw [bridge_snoc_single visited (Or.inl hexchange)]
          exact h.represents
        · simp [h.keyedRows, toKeyedRow, hkey]
        · simp [h.fingerprintOnly, List.filter_append, hopen]
    | some identifierKey =>
      refine ⟨_, rfl, hpush (by simp [ExchangeOrderSnapshotRow.key, hexchange, hidentifier]) ?_⟩
      rw [bridge_snoc_single visited (Or.inl hexchange)]
      exact h.represents
  | some exchangeOrderKey =>
    cases hidentifier : row.identifierKey with
    | none =>
      refine ⟨_, rfl, hpush (by simp [ExchangeOrderSnapshotRow.key, hexchange]) ?_⟩
      rw [bridge_snoc_single visited (Or.inr hidentifier)]
      exact h.represents
    | some identifierKey =>
      obtain ⟨parent, hunion, hparent, -⟩ := represents_union h.represents exchangeOrderKey identifierKey
      refine ⟨_, by simp only [hunion, Option.map_some]; rfl,
        hpush (by simp [ExchangeOrderSnapshotRow.key, hexchange]) ?_⟩
      rw [bridge_snoc, hexchange, hidentifier]
      simpa [eq_comm] using hparent

/-- the state a row puts under a root -/
def stateUnder (root : String → String) (k : String) (row : KeyedRow) : Option LatestState :=
  if root row.key = k then some ⟨row.capturedAtMs, row.status⟩ else none

/-- after some rows of the second loop; `root` is what every lookup answers -/
structure Grouped (E : String → String → Prop) (root : String → String) (visited : List KeyedRow)
    (state : InsertionMap String String × InsertionMap String LatestState) : Prop where
  represents : Represents state.1 E
  roots : rootOf state.1 = root
  groups : ∀ k, state.2.get k = newest (visited.filterMap (stateUnder root k))

theorem groupRow_grouped {E : String → String → Prop} {root : String → String} {visited : List KeyedRow}
    {row : KeyedRow}
    {state : InsertionMap String String × InsertionMap String LatestState} (h : Grouped E root visited state) :
    ∃ state', groupRow state row = some state' ∧ Grouped E root (visited ++ [row]) state' := by
  obtain ⟨parent, hfind, hrepresents, hroots, -⟩ := find_rootOf h.represents row.key
  refine ⟨_, by rw [groupRow, hfind]; rfl, hrepresents, hroots.trans h.roots, fun k => ?_⟩
  dsimp only
  rw [keepLatestState_get, h.roots, List.filterMap_append, newest, List.foldl_append, h.groups]
  by_cases hk : root row.key = k
  · simp [stateUnder, hk, newest]
  · simp [stateUnder, hk, newest]

/-- no snapshot of its order is newer -/
def Newest (row : Vertex S) : Prop :=
  ∀ other : Vertex S, Component.of other = Component.of row → other.1.captured_at ≤ row.1.captured_at

/-- the last of the newest snapshots of its order, in row order -/
def Decides (rows : List ExchangeOrderSnapshotRow) (row : Vertex S) : Prop :=
  ∃ before after, rows = before ++ row.1 :: after ∧ Newest row ∧
    ∀ other : Vertex S, other.1 ∈ after → Component.of other = Component.of row →
      other.1.captured_at < row.1.captured_at

theorem stateUnder_eq_some {root : String → String} {k : String} {row : ExchangeOrderSnapshotRow}
    {state : LatestState} :
    (toKeyedRow row).bind (stateUnder root k) = some state ↔
      ∃ key, row.key = some key ∧ root key = k ∧ state = ⟨row.captured_at, row.status⟩ := by
  unfold toKeyedRow stateUnder
  cases row.key with
  | none => simp
  | some key => simp [eq_comm]

/-- the state under a root is that of the row that decides its order -/
theorem newest_decides {rows : List ExchangeOrderSnapshotRow} {parent : InsertionMap String String}
    (h : Represents parent (Bridge {row | row ∈ rows})) {k : String} {state : LatestState} :
    newest ((rows.filterMap toKeyedRow).filterMap (stateUnder (rootOf parent) k)) = some state ↔
      ∃ row : Vertex {row | row ∈ rows}, Component.root h (Component.of row) = k ∧ Decides rows row ∧
        state = ⟨row.1.captured_at, row.1.status⟩ := by
  rw [List.filterMap_filterMap, newest_iff]
  constructor
  · intro hnewest
    obtain ⟨before, after, hsplit, hbefore, hafter⟩ := hnewest
    obtain ⟨front, rest, hrows, rfl, hrest⟩ := List.filterMap_eq_append_iff.1 hsplit
    obtain ⟨skipped, row, back, hback, hskipped, hrow, rfl⟩ := List.filterMap_eq_cons_iff.1 hrest
    obtain ⟨key, hkey, hroot, rfl⟩ := stateUnder_eq_some.1 hrow
    have hmem : row ∈ rows := by simp [hrows, hback]
    have hvertex : row.Keyed := keyed_iff.2 ⟨key, hasKey_key hkey⟩
    have hcomponent : Component.root h (Component.of ⟨row, hmem, hvertex⟩) = k := by
      rw [Component.root_of h (hasKey_key hkey), hroot]
    have hunder : ∀ other : Vertex {row | row ∈ rows}, Component.of other = Component.of ⟨row, hmem, hvertex⟩ →
        (toKeyedRow other.1).bind (stateUnder (rootOf parent) k) = some ⟨other.1.captured_at, other.1.status⟩ := by
      intro other hsame
      obtain ⟨otherKey, hother⟩ := Option.ne_none_iff_exists'.1 fun hnone => key_eq_none_iff.1 hnone other.2.2
      refine stateUnder_eq_some.2 ⟨otherKey, hother, ?_, rfl⟩
      rw [← Component.root_of h (hasKey_key hother), hsame, hcomponent]
    refine ⟨⟨row, hmem, hvertex⟩, hcomponent, ⟨front ++ skipped, back, by simp [hrows, hback], fun other hsame => ?_,
      fun other hin hsame => ?_⟩, rfl⟩
    · have hstate := hunder other hsame
      have hother : other.1 ∈ front ++ (skipped ++ row :: back) := by
        rw [← hback, ← hrows]
        exact other.2.1
      rcases List.mem_append.1 hother with hin | hin
      · exact hbefore _ (List.mem_filterMap.2 ⟨other.1, hin, hstate⟩)
      · rcases List.mem_append.1 hin with hin | hin
        · rw [hskipped other.1 hin] at hstate
          cases hstate
        · rcases List.mem_cons.1 hin with heq | hin
          · rw [heq]
          · exact (hafter _ (List.mem_filterMap.2 ⟨other.1, hin, hstate⟩)).le
    · exact hafter _ (List.mem_filterMap.2 ⟨other.1, hin, hunder other hsame⟩)
  · intro hdecides
    obtain ⟨row, hcomponent, ⟨front, back, hrows, hnewest, hlast⟩, rfl⟩ := hdecides
    obtain ⟨key, hkey⟩ := Option.ne_none_iff_exists'.1 fun hnone => key_eq_none_iff.1 hnone row.2.2
    have hroot : rootOf parent key = k := by rw [← Component.root_of h (hasKey_key hkey), hcomponent]
    have hrow := stateUnder_eq_some.2 ⟨key, hkey, hroot, rfl⟩
    have hvertex : ∀ other ∈ rows, ∀ state', (toKeyedRow other).bind (stateUnder (rootOf parent) k) = some state' →
        ∃ vertex : Vertex {row | row ∈ rows}, vertex.1 = other ∧ Component.of vertex = Component.of row ∧
          state'.capturedAtMs = other.captured_at := by
      intro other hother state' hstate
      obtain ⟨otherKey, hotherKey, hotherRoot, rfl⟩ := stateUnder_eq_some.1 hstate
      refine ⟨⟨other, hother, keyed_iff.2 ⟨otherKey, hasKey_key hotherKey⟩⟩, rfl, ?_, rfl⟩
      exact (same_order_iff h (hasKey_key hotherKey) (hasKey_key hkey)).1 (hotherRoot.trans hroot.symm)
    refine ⟨front.filterMap fun other => (toKeyedRow other).bind (stateUnder (rootOf parent) k),
      back.filterMap fun other => (toKeyedRow other).bind (stateUnder (rootOf parent) k), ?_, fun state' hin => ?_,
      fun state' hin => ?_⟩
    · refine (congrArg _ hrows).trans ?_
      rw [List.filterMap_append, List.filterMap_cons, hrow]
    · obtain ⟨other, hother, hstate⟩ := List.mem_filterMap.1 hin
      obtain ⟨vertex, rfl, hsame, htime⟩ := hvertex other (by simp [hrows, hother]) state' hstate
      rw [htime]
      exact hnewest vertex hsame
    · obtain ⟨other, hother, hstate⟩ := List.mem_filterMap.1 hin
      obtain ⟨vertex, rfl, hsame, htime⟩ := hvertex other (by simp [hrows, hother]) state' hstate
      rw [htime]
      exact hlast vertex hother hsame

/-- **Second count.** One for each order whose deciding snapshot is open, and for each open row without a key. -/
theorem countCanonicalOpen_eq (rows : List ExchangeOrderSnapshotRow) :
    countCanonicalOpenExchangeOrderSnapshots rows =
      some ((rows.filter fun row => ¬ row.Keyed ∧ isOpenExchangeOrderStatus row.status).length +
        Nat.card {order : Component {row | row ∈ rows} // ∃ row, Component.of row = order ∧ Decides rows row ∧
          isOpenExchangeOrderStatus row.1.status = true}) := by
  have hstart : Scanned [] ⟨InsertionMap.empty, [], 0⟩ := by
    refine ⟨represents_empty fun a b h => ?_, rfl, rfl⟩
    obtain ⟨row, hrow, -⟩ := h
    cases hrow
  obtain ⟨scan, hscan, hscanned⟩ := foldlM_option_history Scanned hstart (fun _ _ _ h => scanRow_scanned h) rows
  have hgroup : Grouped (Bridge {row | row ∈ rows}) (rootOf scan.parent) [] (scan.parent, InsertionMap.empty) :=
    ⟨hscanned.represents, rfl, fun k => InsertionMap.get_empty k⟩
  obtain ⟨state, hfold, hgrouped⟩ := foldlM_option_history (Grouped _ (rootOf scan.parent)) hgroup
    (fun _ _ _ h => groupRow_grouped h) scan.keyedRows
  unfold countCanonicalOpenExchangeOrderSnapshots
  rw [hscan]
  simp only [Option.bind_eq_bind, Option.bind_some, hfold]
  rw [hscanned.fingerprintOnly, ← List.length_map Prod.fst,
    card_eq_length (Component.root_injective hscanned.represents)]
  · exact state.2.nodup.sublist (List.filter_sublist.map Prod.fst)
  · intro k
    have hget := hgrouped.groups k
    rw [hscanned.keyedRows] at hget
    have hentry : ∀ kept, (k, kept) ∈ state.2.entries ↔ ∃ row : Vertex {row | row ∈ rows},
        Component.root hscanned.represents (Component.of row) = k ∧ Decides rows row ∧
          kept = ⟨row.1.captured_at, row.1.status⟩ := fun kept => by
      rw [InsertionMap.mem_iff_get, hget, newest_decides hscanned.represents]
    constructor
    · intro hk
      obtain ⟨⟨k', kept⟩, hin, rfl⟩ := List.mem_map.1 hk
      obtain ⟨hmem, hopen⟩ := List.mem_filter.1 hin
      obtain ⟨row, hroot, hdecides, rfl⟩ := (hentry kept).1 hmem
      exact ⟨Component.of row, ⟨row, rfl, hdecides, hopen⟩, hroot⟩
    · intro horder
      obtain ⟨order, ⟨row, rfl, hdecides, hopen⟩, hroot⟩ := horder
      refine List.mem_map.2 ⟨(k, ⟨row.1.captured_at, row.1.status⟩), List.mem_filter.2 ⟨?_, hopen⟩, rfl⟩
      exact (hentry _).2 ⟨row, hroot, hdecides, rfl⟩

/-! ## Row order -/

theorem exists_represents (rows : List ExchangeOrderSnapshotRow) :
    ∃ parent : InsertionMap String String, Represents parent (Bridge {row | row ∈ rows}) := by
  obtain ⟨state, -, hjoined⟩ := foldlM_option_history Joined joined_nil (fun _ _ _ h => joinRow_joined h) rows
  exact ⟨state.1, hjoined.represents⟩

theorem newest_isSome {states : List LatestState} (h : states ≠ []) : ∃ kept, newest states = some kept := by
  rcases List.eq_nil_or_concat states with rfl | ⟨front, last, rfl⟩
  · exact absurd rfl h
  · rw [newest, List.concat_eq_append, List.foldl_append]
    change ∃ kept, keepState (newest front) last = some kept
    unfold keepState
    split
    · exact ⟨_, rfl⟩
    · split_ifs
      · exact ⟨_, rfl⟩
      · exact ⟨_, rfl⟩

/-- every order has a deciding snapshot -/
theorem exists_decides {rows : List ExchangeOrderSnapshotRow} (hS : {row | row ∈ rows} = S) (row : Vertex S) :
    ∃ decider : Vertex S, Component.of decider = Component.of row ∧ Decides rows decider := by
  subst hS
  obtain ⟨parent, h⟩ := exists_represents rows
  obtain ⟨key, hkey⟩ := Option.ne_none_iff_exists'.1 fun hnone => key_eq_none_iff.1 hnone row.2.2
  have hroot := Component.root_of h (hasKey_key hkey)
  have hstate : (toKeyedRow row.1).bind (stateUnder (rootOf parent) (rootOf parent key)) =
      some ⟨row.1.captured_at, row.1.status⟩ := stateUnder_eq_some.2 ⟨key, hkey, rfl, rfl⟩
  have hne : (rows.filterMap toKeyedRow).filterMap (stateUnder (rootOf parent) (rootOf parent key)) ≠ [] := by
    rw [List.filterMap_filterMap]
    exact List.ne_nil_of_mem (List.mem_filterMap.2 ⟨row.1, row.2.1, hstate⟩)
  obtain ⟨kept, hkept⟩ := newest_isSome hne
  obtain ⟨decider, hsame, hdecides, -⟩ := (newest_decides h).1 hkept
  exact ⟨decider, Component.root_injective h (hsame.trans hroot.symm), hdecides⟩

/-- the newest snapshots of an order are all open or all not open -/
def Unmixed (S : Set ExchangeOrderSnapshotRow) : Prop :=
  ∀ a b : Vertex S, Component.of a = Component.of b → Newest a → Newest b →
    isOpenExchangeOrderStatus a.1.status = true → isOpenExchangeOrderStatus b.1.status = true

/-- the latest snapshot of an order is open; at an equal time a terminal snapshot wins -/
def LatestOpen (order : Component S) : Prop :=
  (∃ row : Vertex S, Component.of row = order ∧ Newest row ∧ isOpenExchangeOrderStatus row.1.status = true) ∧
    ∀ row : Vertex S, Component.of row = order → Newest row → isTerminalExchangeOrderStatus row.1.status = false

theorem not_terminal_of_open {status : String} (h : isOpenExchangeOrderStatus status = true) :
    isTerminalExchangeOrderStatus status = false := by
  unfold isOpenExchangeOrderStatus openExchangeOrderStatuses at h
  simp only [List.contains_eq_mem, List.mem_cons, List.not_mem_nil, or_false, decide_eq_true_eq] at h
  rcases h with rfl | rfl | rfl | rfl
  · decide
  · decide
  · decide
  · decide

theorem latestOpen_iff {rows : List ExchangeOrderSnapshotRow} (hS : {row | row ∈ rows} = S) (h : Unmixed S)
    (order : Component S) : LatestOpen order ↔
      ∃ row : Vertex S, Component.of row = order ∧ Decides rows row ∧ isOpenExchangeOrderStatus row.1.status = true :=
        by
  constructor
  · intro hlatest
    obtain ⟨⟨row, rfl, hnewest, hopen⟩, -⟩ := hlatest
    obtain ⟨decider, hsame, hdecides⟩ := exists_decides hS row
    obtain ⟨-, -, -, hdeciderNewest, -⟩ := id hdecides
    exact ⟨decider, hsame, hdecides, h row decider hsame.symm hnewest hdeciderNewest hopen⟩
  · intro hdecided
    obtain ⟨row, rfl, hdecides, hopen⟩ := hdecided
    obtain ⟨-, -, -, hnewest, -⟩ := hdecides
    refine ⟨⟨row, rfl, hnewest, hopen⟩, fun other hsame hother => not_terminal_of_open ?_⟩
    exact h row other hsame.symm hnewest hother hopen

/-- where the first rows have a property that the last rows lack, a decider with it speaks for all newest snapshots -/
theorem decides_front {front back : List ExchangeOrderSnapshotRow} {q : ExchangeOrderSnapshotRow → Prop}
    (hfront : ∀ row ∈ front, q row) (hback : ∀ row ∈ back, ¬ q row) {decider other : Vertex S}
    (h : Decides (front ++ back) decider) (hq : q decider.1) (hmem : other.1 ∈ front ++ back)
    (hsame : Component.of other = Component.of decider) (hother : Newest other) : q other.1 := by
  obtain ⟨before, after, hsplit, -, hlast⟩ := h
  rw [hsplit] at hmem
  rcases List.mem_append.1 hmem with hin | hin
  · rcases List.append_eq_append_iff.1 hsplit with ⟨middle, hbefore, hrest⟩ | ⟨middle, hwhole, -⟩
    · -- the decider would be one of the last rows
      refine absurd hq (hback decider.1 ?_)
      rw [hrest]
      simp
    · exact hfront other.1 (by rw [hwhole]; exact List.mem_append_left _ hin)
  · rcases List.mem_cons.1 hin with heq | hin
    · rw [heq]
      exact hq
    · exact absurd (hother decider hsame.symm) (not_le.2 (hlast other hin hsame))

def openUnkeyed (rows : List ExchangeOrderSnapshotRow) : ℕ :=
  (rows.filter fun row => ¬ row.Keyed ∧ isOpenExchangeOrderStatus row.status).length

theorem openUnkeyed_perm {rows rows' : List ExchangeOrderSnapshotRow} (h : rows'.Perm rows) :
    openUnkeyed rows' = openUnkeyed rows := (h.filter _).length_eq

/-- the orders that the second count takes for open -/
def decidedOpen (S : Set ExchangeOrderSnapshotRow) (rows : List ExchangeOrderSnapshotRow) : Set (Component S) :=
  {order | ∃ row : Vertex S, Component.of row = order ∧ Decides rows row ∧
    isOpenExchangeOrderStatus row.1.status = true}

theorem countCanonicalOpen_decided {rows : List ExchangeOrderSnapshotRow} (hS : {row | row ∈ rows} = S) :
    countCanonicalOpenExchangeOrderSnapshots rows = some (openUnkeyed rows + (decidedOpen S rows).ncard) := by
  subst hS
  rw [countCanonicalOpen_eq, ← Nat.card_coe_set_eq]
  rfl

theorem same_rows {rows rows' : List ExchangeOrderSnapshotRow} (h : rows'.Perm rows) :
    {row | row ∈ rows'} = {row | row ∈ rows} := Set.ext fun _ => h.mem_iff

theorem component_finite (rows : List ExchangeOrderSnapshotRow) : Finite (Component {row | row ∈ rows}) := by
  have hrows : Finite {row // row ∈ rows} := List.finite_toSet rows
  have hvertices : Finite (Vertex {row | row ∈ rows}) :=
    Finite.of_injective (fun row : Vertex {row | row ∈ rows} => (⟨row.1, row.2.1⟩ : {row // row ∈ rows}))
      fun a b h => Subtype.ext (congrArg (fun row : {row // row ∈ rows} => row.1) h)
  exact inferInstanceAs (Finite (Quot _))

/-- a count that no row order changes has unmixed orders -/
theorem unmixed_of_perm {rows : List ExchangeOrderSnapshotRow}
    (h : ∀ rows' : List ExchangeOrderSnapshotRow, rows'.Perm rows →
      countCanonicalOpenExchangeOrderSnapshots rows' = countCanonicalOpenExchangeOrderSnapshots rows) :
    Unmixed {row | row ∈ rows} := by
  have hfinite := component_finite rows
  let isOpen := fun row : ExchangeOrderSnapshotRow => isOpenExchangeOrderStatus row.status
  -- all open rows first, or all open rows last
  have hfirst : (rows.filter isOpen ++ rows.filter (fun row => !isOpen row)).Perm rows := List.filter_append_perm _ rows
  have hlast : (rows.filter (fun row => !isOpen row) ++ rows.filter isOpen).Perm rows :=
    List.perm_append_comm.trans hfirst
  have hopenRows : ∀ row ∈ rows.filter isOpen, isOpen row = true := fun row hrow => (List.mem_filter.1 hrow).2
  have hclosedRows : ∀ row ∈ rows.filter (fun row => !isOpen row), isOpen row = false := fun row hrow => by
    simpa using (List.mem_filter.1 hrow).2
  have hcount := (h _ hfirst).trans (h _ hlast).symm
  rw [countCanonicalOpen_decided (same_rows hfirst), countCanonicalOpen_decided (same_rows hlast),
    openUnkeyed_perm hfirst, openUnkeyed_perm hlast] at hcount
  have hcard := Nat.add_left_cancel (Option.some.inj hcount)
  -- an order with an open newest snapshot counts when the open rows come last
  have hcounts : ∀ row : Vertex {row | row ∈ rows}, Newest row → isOpen row.1 = true →
      Component.of row ∈ decidedOpen _ (rows.filter (fun row => !isOpen row) ++ rows.filter isOpen) := by
    intro row hnewest hopen
    obtain ⟨decider, hsame, hdecides⟩ := exists_decides (same_rows hlast) row
    refine ⟨decider, hsame, hdecides, ?_⟩
    by_contra hclosed
    have hfalse : isOpen row.1 = false := decides_front (q := fun row => isOpen row = false) hclosedRows
      (fun row hrow => by simp [hopenRows row hrow]) hdecides (by simpa using hclosed)
      (hlast.mem_iff.2 row.2.1) hsame.symm hnewest
    rw [hopen] at hfalse
    cases hfalse
  have hsub : decidedOpen {row | row ∈ rows} (rows.filter isOpen ++ rows.filter (fun row => !isOpen row)) ⊆
      decidedOpen _ (rows.filter (fun row => !isOpen row) ++ rows.filter isOpen) := by
    rintro order ⟨row, rfl, ⟨-, -, -, hnewest, -⟩, hopen⟩
    exact hcounts row hnewest hopen
  have heq := Set.eq_of_subset_of_ncard_le hsub hcard.ge (Set.toFinite _)
  intro a b hsame ha hb hopen
  have hin := hcounts a ha hopen
  rw [← heq] at hin
  obtain ⟨decider, hdecider, hdecides, hdeciderOpen⟩ := hin
  exact decides_front (q := fun row => isOpen row = true) hopenRows
    (fun row hrow => by simp [hclosedRows row hrow]) hdecides
    hdeciderOpen (hfirst.mem_iff.2 b.2.1) (hsame.symm.trans hdecider.symm) hb

/-- the counts are those of the orders, whatever the row order -/
structure CountsComponents (rows : List ExchangeOrderSnapshotRow) : Prop where
  all : countCanonicalExchangeOrderSnapshots rows =
    some (Nat.card (Component {row | row ∈ rows}) + (rows.filter fun row => ¬ row.Keyed).length)
  opened : countCanonicalOpenExchangeOrderSnapshots rows =
    some (openUnkeyed rows + Nat.card {order : Component {row | row ∈ rows} // LatestOpen order})
  order : ∀ rows' : List ExchangeOrderSnapshotRow, rows'.Perm rows →
    countCanonicalExchangeOrderSnapshots rows' = countCanonicalExchangeOrderSnapshots rows ∧
      countCanonicalOpenExchangeOrderSnapshots rows' = countCanonicalOpenExchangeOrderSnapshots rows

theorem countCanonicalOpen_unmixed {rows : List ExchangeOrderSnapshotRow} (hS : {row | row ∈ rows} = S)
    (h : Unmixed S) :
    countCanonicalOpenExchangeOrderSnapshots rows =
      some (openUnkeyed rows + Nat.card {order : Component S // LatestOpen order}) := by
  rw [countCanonicalOpen_decided hS, ← Nat.card_coe_set_eq]
  exact congrArg (fun n => some (openUnkeyed rows + n))
    (Nat.card_congr (Equiv.subtypeEquivRight fun order => (latestOpen_iff hS h order).symm))

theorem countCanonical_perm {rows rows' : List ExchangeOrderSnapshotRow} (h : rows'.Perm rows) :
    countCanonicalExchangeOrderSnapshots rows' = countCanonicalExchangeOrderSnapshots rows := by
  rw [countCanonical_eq, countCanonical_eq, same_rows h, (h.filter _).length_eq]

/-- **Counts.** Both counts are those of the orders, whatever the row order, exactly where no order has both open and
other snapshots at its latest time. -/
theorem counts_components_iff (rows : List ExchangeOrderSnapshotRow) :
    CountsComponents rows ↔ Unmixed {row | row ∈ rows} := by
  constructor
  · intro h
    exact unmixed_of_perm fun rows' hperm => (h.order rows' hperm).2
  · intro h
    refine ⟨countCanonical_eq rows, countCanonicalOpen_unmixed rfl h,
      fun rows' hperm => ⟨countCanonical_perm hperm, ?_⟩⟩
    rw [countCanonicalOpen_unmixed (same_rows hperm) h, countCanonicalOpen_unmixed rfl h, openUnkeyed_perm hperm]

/-- a terminal and an open snapshot of one order at one time: the count depends on which comes last -/
theorem tie_by_row_order :
    ¬ CountsComponents [⟨"a", some "u", none, "done", 5⟩, ⟨"b", some "u", none, "wait", 5⟩] := by
  intro h
  have hswap := (h.order [⟨"b", some "u", none, "wait", 5⟩, ⟨"a", some "u", none, "done", 5⟩] (List.Perm.swap _ _ _)).2
  have hfirst : countCanonicalOpenExchangeOrderSnapshots
      [⟨"b", some "u", none, "wait", 5⟩, ⟨"a", some "u", none, "done", 5⟩] = some 0 := by decide +kernel
  have hsecond : countCanonicalOpenExchangeOrderSnapshots
      [⟨"a", some "u", none, "done", 5⟩, ⟨"b", some "u", none, "wait", 5⟩] = some 1 := by decide +kernel
  rw [hfirst, hsecond] at hswap
  cases hswap

/-- a late row joins two orders -/
example : countCanonicalExchangeOrderSnapshots [⟨"a", some "u", none, "wait", 1⟩, ⟨"b", none, some "i", "wait", 2⟩,
    ⟨"c", none, none, "wait", 2⟩, ⟨"d", some "u", some "i", "done", 3⟩] = some 2 := by decide +kernel

end SeeMirai.Reconcile
