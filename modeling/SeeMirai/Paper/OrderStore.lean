/-
What holds of the order tables in every state: an order stands where its accepted events lead, it was created by one
execution and has the fills of that execution, and the positions are what the fills make of them.

Results:
- `persistPaperExecution_ok` / `appendOrderStateTransitionEvent_ok`: what one transaction that commits does.
- `Consistent.advance`: an accepted event with its guarded update moves an order along its own events.
- `orders_agree_with_events`: after any transactions orders, events, fills and positions agree with each other.
-/
import SeeMirai.Paper.OrderTables

namespace SeeMirai.Paper

open Fallible Transaction

/-! ## What the tables say -/

/-- the accepted events of an order, in the order of their commits -/
def OrderTables.acceptedEvents (tables : OrderTables) (orderId : String) : List OrderEventRow :=
  tables.orderEvents.filter fun row => row.orderId = orderId ∧ row.accepted = true

/-- the events are a path of the order state machine -/
def Leads : OrderLifecycleStatus → List OrderEventRow → OrderLifecycleStatus → Prop
  | start, [], final => start = final
  | start, row :: rows, final =>
    row.fromStatus = start ∧ canTransitionOrderState start row.toStatus = true ∧ Leads row.toStatus rows final

theorem Leads.snoc {start mid : OrderLifecycleStatus} {rows : List OrderEventRow} {row : OrderEventRow}
    (h : Leads start rows mid) (hfrom : row.fromStatus = mid)
    (hcan : canTransitionOrderState row.fromStatus row.toStatus = true) : Leads start (rows ++ [row]) row.toStatus := by
  induction rows generalizing start with
  | nil =>
    obtain rfl : start = mid := h
    exact ⟨hfrom, hfrom ▸ hcan, rfl⟩
  | cons first rest ih =>
    obtain ⟨hstart, hstep, hrest⟩ := h
    exact ⟨hstart, hstep, ih hrest⟩

/-- the last event says where a path ends -/
theorem Leads.final {start final : OrderLifecycleStatus} {rows : List OrderEventRow} (h : Leads start rows final) :
    final = (rows.getLast?.map OrderEventRow.toStatus).getD start := by
  induction rows generalizing start with
  | nil => exact h.symm
  | cons row rows ih =>
    obtain ⟨-, -, hrest⟩ := h
    rw [ih hrest]
    cases rows with
    | nil => rfl
    | cons next rows =>
      rw [List.getLast?_cons_cons]
      cases hlast : (next :: rows).getLast? with
      | none => simp at hlast
      | some last => rfl

/-- each order stands where its accepted events lead, and every row belongs to an order -/
structure Consistent (tables : OrderTables) : Prop where
  keys : (tables.orders.map fun row => row.idempotencyKey).Nodup
  ids : (tables.orders.map OrderRow.id).Nodup
  leads : ∀ row ∈ tables.orders, Leads .riskApproved (tables.acceptedEvents row.id) row.status
  eventsKnown : ∀ event ∈ tables.orderEvents, event.orderId ∈ tables.orders.map OrderRow.id
  fillsKnown : ∀ fill ∈ tables.fills, fill.orderId ∈ tables.orders.map OrderRow.id

theorem consistent_empty : Consistent emptyTables := by
  constructor <;> simp [emptyTables]

/-- an order as it was booked -/
def OrderRow.booked (row : OrderRow) : OrderRow := row.moved .riskApproved

/-- the same orders but for where they stand, the same fills and positions -/
structure SameBooks (tables tables' : OrderTables) : Prop where
  orders : tables'.orders.map OrderRow.booked = tables.orders.map OrderRow.booked
  fills : tables'.fills = tables.fills
  positions : tables'.positions = tables.positions

theorem SameBooks.refl (tables : OrderTables) : SameBooks tables tables := ⟨rfl, rfl, rfl⟩

theorem SameBooks.trans {a b c : OrderTables} (hab : SameBooks a b) (hbc : SameBooks b c) : SameBooks a c :=
  ⟨hbc.orders.trans hab.orders, hbc.fills.trans hab.fills, hbc.positions.trans hab.positions⟩

/-- what does not depend on where the orders stand is read off the booked rows -/
theorem map_eq_of_booked {β : Type} {f : OrderRow → β} (hf : ∀ row, f row.booked = f row)
    {orders orders' : List OrderRow}
    (h : orders'.map OrderRow.booked = orders.map OrderRow.booked) : orders'.map f = orders.map f := by
  have hmap : ∀ rows : List OrderRow, rows.map f = (rows.map OrderRow.booked).map f := by
    intro rows
    rw [List.map_map]
    exact List.map_congr_left fun row _ => (hf row).symm
  rw [hmap, hmap orders, h]

theorem SameBooks.ids {tables tables' : OrderTables} (h : SameBooks tables tables') :
    tables'.orders.map OrderRow.id = tables.orders.map OrderRow.id := map_eq_of_booked (fun _ => rfl) h.orders

section Statements

variable {tables : OrderTables} {session session' : Transaction.Session OrderTables Thrown}

theorem mem_ids_of_not_all {orderId : String} (h : ¬ tables.orders.all (·.id ≠ orderId) = true) :
    orderId ∈ tables.orders.map OrderRow.id := by
  rw [List.all_eq_true, not_forall] at h
  obtain ⟨row, h⟩ := h
  rw [Classical.not_imp] at h
  obtain ⟨hrow, heq⟩ := h
  simp only [ne_eq, decide_not, Bool.not_eq_true', decide_eq_false_iff_not, not_not] at heq
  exact List.mem_map.2 ⟨row, hrow, heq⟩

theorem insertOrderEvent_ok {row returned : OrderEventRow}
    (h : (insertOrderEvent row).run session = (.ok returned, session')) :
    row.orderId ∈ session.store.orders.map OrderRow.id ∧
      session'.store = { session.store with orderEvents := session.store.orderEvents ++ [row] } := by
  have hstatement := run_statement_ok h
  split_ifs at hstatement with hunknown
  obtain ⟨-, hstore⟩ := Prod.mk.inj (Except.ok.inj hstatement)
  exact ⟨mem_ids_of_not_all hunknown, hstore.symm⟩

theorem advanceOrder_ok {orderId : String} {fromState toState : OrderLifecycleStatus} {updated : List OrderRow}
    (h : (advanceOrder orderId fromState toState).run session = (.ok updated, session')) :
    updated = Table.returning (standsAt orderId fromState) (OrderRow.moved toState) session.store.orders ∧
      session'.store.orders = Table.updateWhere (standsAt orderId fromState) (OrderRow.moved toState)
        session.store.orders ∧
      session'.store.orderEvents = session.store.orderEvents ∧ session'.store.fills = session.store.fills ∧
      session'.store.positions = session.store.positions := by
  obtain ⟨hupdated, hstore⟩ := Prod.mk.inj (Except.ok.inj (run_statement_ok h))
  rw [← hstore]
  exact ⟨hupdated.symm, rfl, rfl, rfl, rfl⟩

/-- reading changes nothing -/
theorem selectOrder_ok {picked : OrderRow → Bool} {row : OrderRow}
    (h : (selectOrder picked).run session = (.ok row, session')) :
    row ∈ session.store.orders ∧ picked row = true ∧ session'.store = session.store := by
  have hstatement := run_statement_ok h
  split at hstatement
  · rename_i found hfound
    obtain ⟨rfl, hstore⟩ := Prod.mk.inj (Except.ok.inj hstatement)
    exact ⟨List.mem_of_find?_eq_some hfound, List.find?_some hfound, hstore.symm⟩
  · cases hstatement

theorem insertPaperOrder_ok {orderId : String} {u : Unit}
    (h : (insertPaperOrder orderId).run session = (.ok u, session')) :
    session'.store = { session.store with paperOrders := session.store.paperOrders ++ [orderId] } := by
  have hstatement := run_statement_ok h
  split_ifs at hstatement
  exact (Prod.mk.inj (Except.ok.inj hstatement)).2.symm

theorem insertFills_ok {input returned : List FillRowInput}
    (h : (insertFills input).run session = (.ok returned, session')) :
    returned = input.map FillRowInput.atColumnScales ∧
      session'.store = { session.store with fills := session.store.fills ++ returned } := by
  have hstatement := run_statement_ok h
  simp only at hstatement
  split_ifs at hstatement
  obtain ⟨rfl, hstore⟩ := Prod.mk.inj (Except.ok.inj hstatement)
  exact ⟨rfl, hstore.symm⟩

/-- an insert either finds the key taken, or adds the row under an id that was free -/
theorem insertOrder_ok {id : String} {input : ExecutionOrderRowInput} {inserted : Option OrderRow}
    (h : (insertOrder id input).run session = (.ok inserted, session')) :
    (inserted = none ∧ session'.store = session.store) ∨
      (inserted = some ⟨input.atColumnScales, id⟩ ∧
        session'.store = { session.store with orders := session.store.orders ++ [⟨input.atColumnScales, id⟩] } ∧
        input.idempotencyKey ∉ session.store.orders.map (fun row => row.idempotencyKey) ∧
        id ∉ session.store.orders.map OrderRow.id) := by
  have hstatement := run_statement_ok h
  simp only at hstatement
  split_ifs at hstatement with hchecks hkey hid
  · obtain ⟨hnone, hstore⟩ := Prod.mk.inj (Except.ok.inj hstatement)
    exact Or.inl ⟨hnone.symm, hstore.symm⟩
  · obtain ⟨hrow, hstore⟩ := Prod.mk.inj (Except.ok.inj hstatement)
    refine Or.inr ⟨hrow.symm, hstore.symm, fun hmem => ?_, fun hmem => ?_⟩
    · obtain ⟨row, hrow, heq⟩ := List.mem_map.1 hmem
      exact hkey (List.any_eq_true.2 ⟨row, hrow, decide_eq_true heq⟩)
    · obtain ⟨row, hrow, heq⟩ := List.mem_map.1 hmem
      exact hid (List.any_eq_true.2 ⟨row, hrow, decide_eq_true heq⟩)

end Statements

/-! ## Keeping the tables consistent -/

section Keeping

variable {tables tables' : OrderTables}

theorem acceptedEvents_snoc (row : OrderEventRow) (orderId : String) :
    { tables with orderEvents := tables.orderEvents ++ [row] }.acceptedEvents orderId =
      tables.acceptedEvents orderId ++ if row.orderId = orderId ∧ row.accepted = true then [row] else [] := by
  unfold OrderTables.acceptedEvents
  rw [List.filter_append]
  by_cases hown : row.orderId = orderId ∧ row.accepted = true
  · simp [hown]
  · simp [hown]

/-- a row that the guarded update takes is moved -/
theorem standsAt_iff {orderId : String} {status : OrderLifecycleStatus} {row : OrderRow} :
    standsAt orderId status row = true ↔ row.id = orderId ∧ row.status = status := by
  simp [standsAt]

theorem advanced_ids (orderId : String) (fromState toState : OrderLifecycleStatus) (orders : List OrderRow) :
    (Table.updateWhere (standsAt orderId fromState) (OrderRow.moved toState) orders).map OrderRow.id =
      orders.map OrderRow.id :=
  Table.map_updateWhere fun _ => rfl

/-- **An accepted event with its update.** Where the update took a row, the order stands where its events lead. -/
theorem Consistent.advance (h : Consistent tables) (event : OrderEventRow) (haccepted : event.accepted = true)
    (hcan : canTransitionOrderState event.fromStatus event.toStatus = true)
    (hknown : event.orderId ∈ tables.orders.map OrderRow.id)
    (hevents : tables'.orderEvents = tables.orderEvents ++ [event]) (hfills : tables'.fills = tables.fills)
    (hpositions : tables'.positions = tables.positions)
    (horders : tables'.orders =
      Table.updateWhere (standsAt event.orderId event.fromStatus) (OrderRow.moved event.toStatus) tables.orders)
    (htaken : Table.returning (standsAt event.orderId event.fromStatus)
      (OrderRow.moved event.toStatus) tables.orders ≠ []) :
    Consistent tables' ∧ SameBooks tables tables' := by
  have hids : tables'.orders.map OrderRow.id = tables.orders.map OrderRow.id := by
    rw [horders]
    exact advanced_ids _ _ _ _
  have hkeys : tables'.orders.map (fun row => row.idempotencyKey) = tables.orders.map fun row => row.idempotencyKey :=
    by
    rw [horders]
    exact Table.map_updateWhere fun _ => rfl
  have haccepts : ∀ orderId, tables'.acceptedEvents orderId =
      tables.acceptedEvents orderId ++ if event.orderId = orderId then [event] else [] := by
    intro orderId
    have := @acceptedEvents_snoc tables event orderId
    unfold OrderTables.acceptedEvents at this ⊢
    rw [hevents, this]
    simp [haccepted]
  refine ⟨⟨by rw [hkeys]; exact h.keys, by rw [hids]; exact h.ids, ?_, ?_, ?_⟩, ?_, hfills, hpositions⟩
  · intro row hrow
    rw [horders] at hrow
    rw [haccepts]
    rcases Table.mem_updateWhere.1 hrow with ⟨old, hold, hpicked, rfl⟩ | ⟨hold, hnot⟩
    · obtain ⟨hid, hstatus⟩ := standsAt_iff.1 hpicked
      have hsame : (old.moved event.toStatus).id = event.orderId := hid
      rw [if_pos hsame.symm]
      have hleads := h.leads old hold
      rw [hstatus] at hleads
      exact hleads.snoc rfl hcan
    · by_cases hid : event.orderId = row.id
      · -- the row with this id is the one that was taken
        obtain ⟨taken, htaken⟩ := List.exists_mem_of_ne_nil _ htaken
        obtain ⟨old, hold', hpicked, -⟩ := Table.mem_returning.1 htaken
        have heq : old = row := Table.eq_of_key_eq h.ids hold' hold ((standsAt_iff.1 hpicked).1.trans hid)
        rw [heq, hnot] at hpicked
        cases hpicked
      · rw [if_neg hid, List.append_nil]
        exact h.leads row hold
  · intro other hother
    rw [hevents] at hother
    rw [hids]
    rcases List.mem_append.1 hother with hother | hother
    · exact h.eventsKnown other hother
    · rw [List.mem_singleton.1 hother]
      exact hknown
  · intro fill hfill
    rw [hfills] at hfill
    rw [hids]
    exact h.fillsKnown fill hfill
  · rw [horders]
    exact Table.map_updateWhere fun _ => rfl

/-- a rejected event is logged and moves nothing -/
theorem Consistent.reject (h : Consistent tables) {event : OrderEventRow} (hrejected : event.accepted = false)
    (hknown : event.orderId ∈ tables.orders.map OrderRow.id) :
    Consistent { tables with orderEvents := tables.orderEvents ++ [event] } := by
  refine ⟨h.keys, h.ids, fun row hrow => ?_, fun other hother => ?_, h.fillsKnown⟩
  · rw [acceptedEvents_snoc, if_neg (by simp [hrejected]), List.append_nil]
    exact h.leads row hrow
  · rcases List.mem_append.1 hother with hother | hother
    · exact h.eventsKnown other hother
    · rw [List.mem_singleton.1 hother]
      exact hknown

/-- a new order stands at RISK_APPROVED, without events -/
theorem Consistent.insert (h : Consistent tables) (row : OrderRow) (hstatus : row.status = .riskApproved)
    (hkey : row.idempotencyKey ∉ tables.orders.map fun row => row.idempotencyKey)
    (hid : row.id ∉ tables.orders.map OrderRow.id) : Consistent { tables with orders := tables.orders ++ [row] } := by
  refine ⟨?_, ?_, fun other hother => ?_, fun event hevent => ?_, fun fill hfill => ?_⟩
  · rw [List.map_append, List.nodup_append]
    exact ⟨h.keys, List.nodup_singleton _, fun a ha b hb => by
      rw [List.map_singleton, List.mem_singleton] at hb
      rw [hb]
      exact fun heq => hkey (heq ▸ ha)⟩
  · rw [List.map_append, List.nodup_append]
    exact ⟨h.ids, List.nodup_singleton _, fun a ha b hb => by
      rw [List.map_singleton, List.mem_singleton] at hb
      rw [hb]
      exact fun heq => hid (heq ▸ ha)⟩
  · rcases List.mem_append.1 hother with hother | hother
    · exact h.leads other hother
    · obtain rfl := List.mem_singleton.1 hother
      have hnone : tables.acceptedEvents other.id = [] := by
        refine List.filter_eq_nil_iff.2 fun event hevent hown => hid ?_
        rw [← (of_decide_eq_true hown).1]
        exact h.eventsKnown event hevent
      change Leads .riskApproved (tables.acceptedEvents other.id) other.status
      rw [hnone, hstatus]
      rfl
  · rw [List.map_append]
    exact List.mem_append_left _ (h.eventsKnown event hevent)
  · rw [List.map_append]
    exact List.mem_append_left _ (h.fillsKnown fill hfill)

theorem Consistent.addFills (h : Consistent tables) (rows : List FillRowInput)
    (hknown : ∀ row ∈ rows, row.orderId ∈ tables.orders.map OrderRow.id) :
    Consistent { tables with fills := tables.fills ++ rows } := by
  refine ⟨h.keys, h.ids, h.leads, h.eventsKnown, fun fill hfill => ?_⟩
  rcases List.mem_append.1 hfill with hfill | hfill
  · exact h.fillsKnown fill hfill
  · exact hknown fill hfill

end Keeping

/-! ## Transactions that commit -/

section Committing

variable {session session' : Transaction.Session OrderTables Thrown}

theorem createTransitionEvents_steps {input : PersistPaperExecutionInput} {targetStatuses : List OrderLifecycleStatus}
    {start : OrderLifecycleStatus} {events : List OrderStateTransitionEvent}
    (h : createTransitionEvents input start targetStatuses = .ok events) :
    ∀ event ∈ events, canTransitionOrderState event.fromState event.toState = true := by
  induction targetStatuses generalizing start events with
  | nil =>
    cases h
    intro event hevent
    cases hevent
  | cons toState targetStatuses ih =>
    unfold createTransitionEvents at h
    obtain ⟨u, hlegal, h⟩ := bind_eq_ok.1 h
    obtain ⟨rest, hrest, h⟩ := bind_eq_ok.1 h
    cases h
    intro event hevent
    rcases List.mem_cons.1 hevent with rfl | hevent
    · unfold throwIf at hlegal
      split_ifs at hlegal with hrefused
      simpa [Risk.transitionOrderState] using hrefused
    · exact ih hrest event hevent

/-- the events of an execution take its order along, and touch nothing else -/
theorem appendPaperExecutionStateEvents_ok {orderId : String} {events : List OrderStateTransitionEvent}
    {rows : List OrderEventRow} (hsteps : ∀ event ∈ events,
      canTransitionOrderState event.fromState event.toState = true)
    (hconsistent : Consistent session.store)
    (h : (appendPaperExecutionStateEvents orderId events).run session = (.ok rows, session')) :
    Consistent session'.store ∧ SameBooks session.store session'.store := by
  induction events generalizing session rows with
  | nil =>
    obtain ⟨-, hsame⟩ := run_pure_ok h
    rw [hsame]
    exact ⟨hconsistent, SameBooks.refl _⟩
  | cons event events ih =>
    unfold appendPaperExecutionStateEvents at h
    obtain ⟨row, logged, hlogged, h⟩ := run_bind_ok h
    obtain ⟨updated, moved, hmoved, h⟩ := run_bind_ok h
    obtain ⟨hknown, hstore⟩ := insertOrderEvent_ok hlogged
    obtain ⟨hupdated, horders, hevents, hfills, hpositions⟩ := advanceOrder_ok hmoved
    rw [hstore] at hupdated horders hevents hfills hpositions
    split_ifs at h with htaken
    · obtain ⟨u, thrown, hthrown, -⟩ := run_bind_ok h
      cases hthrown
    · obtain ⟨rest, last, hlast, h⟩ := run_bind_ok h
      obtain ⟨-, rfl⟩ := run_pure_ok h
      rw [hupdated] at htaken
      obtain ⟨hmid, hbooks⟩ := hconsistent.advance (paperEventRow orderId event) rfl
        (hsteps event List.mem_cons_self) hknown hevents hfills hpositions horders htaken
      obtain ⟨hend, hsame⟩ := ih (fun event hevent => hsteps event (List.mem_cons_of_mem _ hevent)) hmid hlast
      exact ⟨hend, hbooks.trans hsame⟩

/-- a transition that is appended: accepted, the order moves along; refused, it stays -/
theorem appendOrderStateTransitionEvent_ok {orderId : String} {fromState toState : OrderLifecycleStatus}
    {reasonCode message : String} {occurredAt : MarketTimestamp} {row : OrderEventRow}
    (hconsistent : Consistent session.store)
    (h : (appendOrderStateTransitionEvent orderId (Risk.transitionOrderState fromState toState reasonCode message)
      occurredAt).run session = (.ok row, session')) :
    Consistent session'.store ∧ SameBooks session.store session'.store := by
  unfold appendOrderStateTransitionEvent at h
  obtain ⟨logged, mid, hlogged, h⟩ := run_bind_ok h
  obtain ⟨hknown, hstore⟩ := insertOrderEvent_ok hlogged
  simp only [Risk.transitionOrderState] at h
  by_cases haccepted : canTransitionOrderState fromState toState = true
  · rw [if_pos haccepted] at h
    obtain ⟨updated, moved, hmoved, h⟩ := run_bind_ok h
    obtain ⟨hupdated, horders, hevents, hfills, hpositions⟩ := advanceOrder_ok hmoved
    rw [hstore] at hupdated horders hevents hfills hpositions
    split_ifs at h with htaken
    · obtain ⟨u, thrown, hthrown, -⟩ := run_bind_ok h
      cases hthrown
    · obtain ⟨-, rfl⟩ := run_pure_ok h
      rw [hupdated] at htaken
      exact hconsistent.advance _ haccepted haccepted hknown hevents hfills hpositions horders htaken
  · rw [if_neg haccepted] at h
    obtain ⟨-, rfl⟩ := run_pure_ok h
    rw [hstore]
    exact ⟨hconsistent.reject (Bool.eq_false_iff.2 haccepted) hknown, rfl, rfl, rfl⟩

variable [Host]

/-- the positions are written beside the orders, fill by fill -/
theorem upsertPositionFromFills_ok {order : OrderRow} {fills : List FillRowInput} {u : Unit}
    (h : (upsertPositionFromFills order fills).run session = (.ok u, session')) :
    ∃ positions, fills.foldlM (applyFill order) session.store.positions = .ok positions ∧
      session'.store = { session.store with positions := positions } := by
  induction fills generalizing session with
  | nil =>
    obtain ⟨-, rfl⟩ := run_pure_ok h
    exact ⟨_, rfl, rfl⟩
  | cons fill fills ih =>
    unfold upsertPositionFromFills at h
    obtain ⟨u, moved, hmoved, h⟩ := run_bind_ok h
    obtain ⟨positions, happlied, hstatement⟩ := bind_eq_ok.1 (run_statement_ok hmoved)
    have hstore := (Prod.mk.inj (Except.ok.inj hstatement)).2
    obtain ⟨final, hfold, hlast⟩ := ih h
    rw [← hstore] at hfold hlast
    refine ⟨final, ?_, hlast⟩
    rw [List.foldlM_cons, happlied]
    exact hfold

theorem toFillRowInputs_orderId {orderId : String} {input : PersistPaperExecutionInput} {rows : List FillRowInput}
    (h : toFillRowInputs orderId input = .ok rows) : ∀ row ∈ rows, row.orderId = orderId := by
  unfold toFillRowInputs createFillRows at h
  split at h
  · cases h
    simp
  · split_ifs at h
    · cases h
      simp
    · cases h
      simp
    · obtain ⟨quoteCurrency, -, h⟩ := bind_eq_ok.1 h
      cases h
      intro row hrow
      obtain ⟨fill, -, rfl⟩ := List.mem_map.1 hrow
      rfl

theorem insertPaperExecutionFills_ok {orderId : String} {input : PersistPaperExecutionInput} {fills : List FillRowInput}
    (h : (insertPaperExecutionFills orderId input).run session = (.ok fills, session')) :
    ∃ rows, toFillRowInputs orderId input = .ok rows ∧ fills = rows.map FillRowInput.atColumnScales ∧
      session'.store = { session.store with fills := session.store.fills ++ fills } := by
  unfold insertPaperExecutionFills at h
  obtain ⟨rows, mid, hmade, hinserted⟩ := run_bind_ok h
  obtain ⟨hrows, hsame⟩ := run_ofExcept_ok hmade
  rw [hsame] at hinserted
  refine ⟨rows, hrows, ?_⟩
  split_ifs at hinserted with hempty
  · obtain ⟨rfl, rfl⟩ := run_pure_ok hinserted
    rw [hempty, List.append_nil]
    exact ⟨rfl, rfl⟩
  · exact insertFills_ok hinserted

theorem applyFill_eq {a b : OrderRow} (h : a.scope = b.scope) : applyFill a = applyFill b := by
  unfold applyFill
  rw [h]

/-- what a new order leaves behind it -/
structure Books (tables tables' : OrderTables) (row : OrderRow) (input : PersistPaperExecutionInput) : Prop where
  orders : tables'.orders.map OrderRow.booked = tables.orders.map OrderRow.booked
  fills : ∃ rows, toFillRowInputs row.id input = .ok rows ∧
    tables'.fills = tables.fills ++ rows.map FillRowInput.atColumnScales ∧
    (rows.map FillRowInput.atColumnScales).foldlM (applyFill row) tables.positions = .ok tables'.positions

theorem bookInsertedOrder_ok {input : PersistPaperExecutionInput} {row : OrderRow}
    {result : PersistPaperExecutionResult} (hconsistent : Consistent session.store) (hrow : row ∈ session.store.orders)
    (h : (bookInsertedOrder input row).run session = (.ok result, session')) :
    Consistent session'.store ∧ Books session.store session'.store row input ∧ result.created = true ∧
      result.order.id = row.id := by
  unfold bookInsertedOrder at h
  obtain ⟨u, keyed, hkeyed, h⟩ := run_bind_ok h
  have hstore := insertPaperOrder_ok hkeyed
  have hready : Consistent keyed.store := by
    rw [hstore]
    exact ⟨hconsistent.keys, hconsistent.ids, hconsistent.leads, hconsistent.eventsKnown, hconsistent.fillsKnown⟩
  obtain ⟨events, same, hmade, h⟩ := run_bind_ok h
  obtain ⟨hevents, hunchanged⟩ := run_ofExcept_ok hmade
  obtain ⟨targetStatuses, -, hchain⟩ := bind_eq_ok.1 hevents
  obtain ⟨orderEvents, moved, hmoved, h⟩ := run_bind_ok h
  rw [hunchanged] at hmoved
  obtain ⟨hmid, hbooks⟩ := appendPaperExecutionStateEvents_ok (createTransitionEvents_steps hchain) hready hmoved
  obtain ⟨order, read, hread, h⟩ := run_bind_ok h
  obtain ⟨horder, hpicked, hsame⟩ := selectOrder_ok hread
  obtain ⟨fills, filled, hfilled, h⟩ := run_bind_ok h
  obtain ⟨rows, hrows, rfl, hfills⟩ := insertPaperExecutionFills_ok hfilled
  obtain ⟨u, positioned, hpositioned, h⟩ := run_bind_ok h
  obtain ⟨positions, hfold, hlast⟩ := upsertPositionFromFills_ok hpositioned
  obtain ⟨rfl, rfl⟩ := run_pure_ok h
  have hid : order.id = row.id := of_decide_eq_true hpicked
  have hbefore : moved.store.orders.map OrderRow.booked = session.store.orders.map OrderRow.booked := by
    rw [hbooks.orders, hstore]
  -- the order that is read back is the one that was inserted, moved along
  have hscope : order.scope = row.scope := by
    have hmem : order.booked ∈ session.store.orders.map OrderRow.booked := by
      rw [← hbefore]
      exact List.mem_map_of_mem horder
    obtain ⟨old, hold, heq⟩ := List.mem_map.1 hmem
    have hsameId : old.id = row.id := (congrArg OrderRow.id heq).trans hid
    obtain rfl := Table.eq_of_key_eq hconsistent.ids hold hrow hsameId
    exact (congrArg OrderRow.scope heq).symm
  have hidKnown : row.id ∈ moved.store.orders.map OrderRow.id := hid ▸ List.mem_map_of_mem horder
  rw [hsame] at hfills
  rw [hfills] at hfold hlast
  rw [applyFill_eq hscope] at hfold
  have hadded := hmid.addFills (rows.map FillRowInput.atColumnScales) (by
    intro fill hfill
    obtain ⟨given, hgiven, rfl⟩ := List.mem_map.1 hfill
    rw [show given.atColumnScales.orderId = row.id from toFillRowInputs_orderId hrows given hgiven]
    exact hidKnown)
  rw [hlast]
  refine ⟨⟨hadded.keys, hadded.ids, hadded.leads, hadded.eventsKnown, hadded.fillsKnown⟩,
    ⟨hbefore, rows, hrows, ?_, ?_⟩,
    rfl, hid⟩
  · change moved.store.fills ++ _ = _
    rw [hbooks.fills, hstore]
  · have hpositions : moved.store.positions = session.store.positions := by
      rw [hbooks.positions, hstore]
    rw [← hpositions]
    exact hfold

/-- what an execution creates: its order with its fills, or nothing where the key is taken -/
theorem persistPaperExecution_ok {id : String} {input : PersistPaperExecutionInput}
    {result : PersistPaperExecutionResult} (hconsistent : Consistent session.store)
    (h : (persistPaperExecutionInTransaction id input).run session = (.ok result, session')) :
    Consistent session'.store ∧
      ((result.created = false ∧ session'.store = session.store) ∨
        ∃ row opened, toExecutionOrderRowInput input = .ok row ∧ id ∉ session.store.orders.map OrderRow.id ∧
          opened = { session.store with orders := session.store.orders ++ [⟨row.atColumnScales, id⟩] } ∧
          Books opened session'.store ⟨row.atColumnScales, id⟩ input ∧ result.created = true ∧
            result.order.id = id) := by
  unfold persistPaperExecutionInTransaction at h
  obtain ⟨u, first, hmatches, h⟩ := run_bind_ok h
  obtain ⟨-, hfirst⟩ := run_ofExcept_ok hmatches
  obtain ⟨u, second, hevidence, h⟩ := run_bind_ok h
  obtain ⟨-, hsecond⟩ := run_ofExcept_ok hevidence
  obtain ⟨row, third, hread, h⟩ := run_bind_ok h
  obtain ⟨hrow, hthird⟩ := run_ofExcept_ok hread
  obtain ⟨inserted, opened, hinserted, h⟩ := run_bind_ok h
  rw [hthird, hsecond, hfirst] at hinserted
  rcases insertOrder_ok hinserted with ⟨rfl, hsame⟩ | ⟨rfl, hstore, hkey, hid⟩
  · unfold returnExistingOrder at h
    obtain ⟨existing, selected, hselected, h⟩ := run_bind_ok h
    obtain ⟨-, -, hselected⟩ := selectOrder_ok hselected
    obtain ⟨u, checked, hchecked, h⟩ := run_bind_ok h
    obtain ⟨-, hchecked⟩ := run_ofExcept_ok hchecked
    obtain ⟨rfl, hlast⟩ := run_pure_ok h
    have hstores : session'.store = session.store := by
      rw [hlast, hchecked, hselected, hsame]
    rw [hstores]
    exact ⟨hconsistent, Or.inl ⟨rfl, rfl⟩⟩
  · have hopened := hconsistent.insert ⟨row.atColumnScales, id⟩ (by
      obtain ⟨price, -, hrow⟩ := bind_eq_ok.1 hrow
      obtain ⟨quantity, -, hrow⟩ := bind_eq_ok.1 hrow
      obtain ⟨notional, -, hrow⟩ := bind_eq_ok.1 hrow
      cases hrow
      rfl) hkey hid
    rw [← hstore] at hopened
    have hmem : (⟨row.atColumnScales, id⟩ : OrderRow) ∈ opened.store.orders := by
      rw [hstore]
      exact List.mem_append_right _ (List.mem_singleton_self _)
    obtain ⟨hend, hbooks, hcreated, hresult⟩ := bookInsertedOrder_ok hopened hmem h
    exact ⟨hend, Or.inr ⟨row, opened.store, hrow, hid, hstore, hbooks, hcreated, hresult⟩⟩

end Committing

/-! ## Whole runs -/

section Runs

variable [Host]

/-- the positions that the fills of the orders make, order by order -/
def replay (fills : List FillRowInput) (orders : List OrderRow) (positions : Execution.Positions) :
    Except Thrown Execution.Positions :=
  orders.foldlM (fun positions order => (fills.filter (·.orderId = order.id)).foldlM (applyFill order) positions)
    positions

theorem replay_booked (fills : List FillRowInput) (orders : List OrderRow) (positions : Execution.Positions) :
    replay fills (orders.map OrderRow.booked) positions = replay fills orders positions := by
  unfold replay
  rw [List.foldlM_map]
  rfl

theorem replay_snoc (fills : List FillRowInput) (orders : List OrderRow) (order : OrderRow)
    (positions : Execution.Positions) :
    replay fills (orders ++ [order]) positions =
      replay fills orders positions >>= (fills.filter (·.orderId = order.id)).foldlM (applyFill order) := by
  unfold replay
  rw [List.foldlM_append]
  congr 1
  funext earlier
  rw [List.foldlM_cons]
  exact bind_pure _

omit [Host] in
/-- fills of other orders do not count -/
theorem filter_fills_of_ne {fills rows : List FillRowInput} {orderId : String}
    (h : ∀ row ∈ rows, row.orderId ≠ orderId) :
    (fills ++ rows).filter (·.orderId = orderId) = fills.filter (·.orderId = orderId) := by
  have hnone : rows.filter (·.orderId = orderId) = [] := by
    apply List.filter_eq_nil_iff.2
    intro row hrow hsame
    exact h row hrow (of_decide_eq_true hsame)
  rw [List.filter_append, hnone, List.append_nil]

theorem replay_append_fills {fills rows : List FillRowInput} {orders : List OrderRow}
    (h : ∀ order ∈ orders, ∀ row ∈ rows, row.orderId ≠ order.id) (positions : Execution.Positions) :
    replay (fills ++ rows) orders positions = replay fills orders positions := by
  induction orders generalizing positions with
  | nil => rfl
  | cons order orders ih =>
    have hown : (fills ++ rows).filter (·.orderId = order.id) = fills.filter (·.orderId = order.id) :=
      filter_fills_of_ne (h order List.mem_cons_self)
    unfold replay at ih ⊢
    rw [List.foldlM_cons, List.foldlM_cons, hown]
    congr 1
    funext next
    exact ih (fun other hother => h other (List.mem_cons_of_mem _ hother)) next

/-- an order is the one its creating execution asked for, with the fills of that execution and no others -/
def BookedFor (fills : List FillRowInput) (created : String × PersistPaperExecutionInput) (order : OrderRow) : Prop :=
  ∃ row rows, toExecutionOrderRowInput created.2 = .ok row ∧ order = ⟨row.atColumnScales, created.1⟩ ∧
    toFillRowInputs created.1 created.2 = .ok rows ∧
    fills.filter (·.orderId = created.1) = rows.map FillRowInput.atColumnScales

theorem bookedFor_fills {fills fills' : List FillRowInput} {created : List (String × PersistPaperExecutionInput)}
    {orders : List OrderRow} (h : List.Forall₂ (BookedFor fills) created orders)
    (hsame : ∀ order ∈ orders, fills'.filter (·.orderId = order.id) = fills.filter (·.orderId = order.id)) :
    List.Forall₂ (BookedFor fills') created orders := by
  induction h with
  | nil => exact .nil
  | @cons call order created orders hbooked hrest ih =>
    obtain ⟨row, rows, hrow, rfl, hrows, hown⟩ := hbooked
    refine .cons ⟨row, rows, hrow, rfl, hrows, ?_⟩ (ih fun other hother => hsame other (List.mem_cons_of_mem _ hother))
    rw [← hown]
    exact hsame _ List.mem_cons_self

/-- the tables agree with each other and with the executions that were booked -/
structure StoreWorld.Sound (w : StoreWorld) : Prop where
  consistent : Consistent w.tables
  booked : List.Forall₂ (BookedFor w.tables.fills) w.created (w.tables.orders.map OrderRow.booked)
  positions : replay w.tables.fills w.tables.orders InsertionMap.empty = .ok w.tables.positions

theorem sound_initial : initialStoreWorld.Sound := ⟨consistent_empty, .nil, rfl⟩

/-- a transaction over the same books -/
theorem StoreWorld.Sound.same {w : StoreWorld} (h : w.Sound) {tables : OrderTables} (hconsistent : Consistent tables)
    (hsame : SameBooks w.tables tables) : StoreWorld.Sound { w with tables := tables } := by
  refine ⟨hconsistent, ?_, ?_⟩
  · change List.Forall₂ (BookedFor tables.fills) w.created (tables.orders.map OrderRow.booked)
    rw [hsame.orders, hsame.fills]
    exact h.booked
  · change replay tables.fills tables.orders _ = .ok tables.positions
    rw [← replay_booked, hsame.orders, hsame.fills, hsame.positions, replay_booked]
    exact h.positions

/-- an execution that created its order -/
theorem StoreWorld.Sound.create {w : StoreWorld} (h : w.Sound) {id : String} {input : PersistPaperExecutionInput}
    {row : ExecutionOrderRowInput} {tables : OrderTables} (hconsistent : Consistent tables)
    (hrow : toExecutionOrderRowInput input = .ok row) (hfresh : id ∉ w.tables.orders.map OrderRow.id)
    (hbooks : Books { w.tables with orders := w.tables.orders ++ [⟨row.atColumnScales, id⟩] } tables
      ⟨row.atColumnScales, id⟩ input) :
    StoreWorld.Sound ⟨tables, w.created ++ [(id, input)]⟩ := by
  obtain ⟨horders, rows, hrows, hfills, hpositions⟩ := hbooks
  have hnew : (⟨row.atColumnScales, id⟩ : OrderRow).booked = ⟨row.atColumnScales, id⟩ := by
    obtain ⟨price, -, hrow⟩ := bind_eq_ok.1 hrow
    obtain ⟨quantity, -, hrow⟩ := bind_eq_ok.1 hrow
    obtain ⟨notional, -, hrow⟩ := bind_eq_ok.1 hrow
    cases hrow
    rfl
  rw [List.map_append, List.map_singleton, hnew] at horders
  have howned : ∀ fill ∈ rows.map FillRowInput.atColumnScales, fill.orderId = id := by
    intro fill hfill
    obtain ⟨given, hgiven, rfl⟩ := List.mem_map.1 hfill
    exact toFillRowInputs_orderId hrows given hgiven
  -- fills of the new order are its own rows, and those of an earlier order stay what they were
  have hold : ∀ orderId ∈ w.tables.orders.map OrderRow.id,
      tables.fills.filter (·.orderId = orderId) = w.tables.fills.filter (·.orderId = orderId) := by
    intro orderId hknown
    rw [hfills]
    apply filter_fills_of_ne
    intro fill hfill hsame
    exact hfresh (((howned fill hfill).symm.trans hsame) ▸ hknown)
  have hown : tables.fills.filter (·.orderId = id) = rows.map FillRowInput.atColumnScales := by
    have hnone : w.tables.fills.filter (·.orderId = id) = [] := by
      apply List.filter_eq_nil_iff.2
      intro fill hfill hsame
      exact hfresh ((of_decide_eq_true hsame) ▸ h.consistent.fillsKnown fill hfill)
    have hall : (rows.map FillRowInput.atColumnScales).filter (·.orderId = id) = rows.map FillRowInput.atColumnScales :=
      List.filter_eq_self.2 fun fill hfill => decide_eq_true (howned fill hfill)
    rw [hfills]
    change (w.tables.fills ++ _).filter _ = _
    rw [List.filter_append, hnone, hall, List.nil_append]
  refine ⟨hconsistent, ?_, ?_⟩
  · change List.Forall₂ (BookedFor tables.fills) (w.created ++ [(id, input)]) (tables.orders.map OrderRow.booked)
    rw [horders]
    refine List.rel_append (bookedFor_fills h.booked ?_) (.cons ⟨row, rows, hrow, rfl, hrows, hown⟩ .nil)
    intro order horder
    obtain ⟨stored, hstored, rfl⟩ := List.mem_map.1 horder
    exact hold _ (List.mem_map.2 ⟨stored, hstored, rfl⟩)
  · have hearlier : replay tables.fills w.tables.orders InsertionMap.empty = .ok w.tables.positions := by
      rw [← h.positions, hfills]
      apply replay_append_fills
      intro order horder fill hfill hsame
      exact hfresh (((howned fill hfill).symm.trans hsame) ▸ List.mem_map_of_mem horder)
    change replay tables.fills tables.orders _ = .ok tables.positions
    rw [← replay_booked, horders, replay_snoc, replay_booked, hearlier, ok_bind]
    change (tables.fills.filter (·.orderId = id)).foldlM _ _ = _
    rw [hown]
    exact hpositions

theorem StoreWorld.Sound.step {w : StoreWorld} (h : w.Sound) (call : StoreCall × List (Option Thrown)) :
    (w.step call).Sound := by
  obtain ⟨call, faults⟩ := call
  cases call with
  | persistPaperExecution id input =>
    change (w.committed input (transact (persistPaperExecutionInTransaction id input) faults w.tables)).Sound
    cases hdone : transact (persistPaperExecutionInTransaction id input) faults w.tables with
    | mk result tables =>
      cases result with
      | error e =>
        obtain rfl := transact_throws hdone
        exact h
      | ok result =>
        obtain ⟨session, hrun, rfl⟩ := transact_ok hdone
        obtain ⟨hconsistent, ⟨hnone, hsame⟩ | ⟨row, opened, hrow, hfresh, rfl, hbooks, hcreated, hid⟩⟩ :=
          persistPaperExecution_ok h.consistent hrun
        · simp only [StoreWorld.committed, hnone, hsame]
          exact h
        · simp only [StoreWorld.committed, hcreated, if_true, hid]
          exact h.create hconsistent hrow hfresh hbooks
  | appendOrderStateTransitionEvent orderId fromState toState reasonCode message occurredAt =>
    change StoreWorld.Sound { w with tables := (transact _ faults w.tables).2 }
    cases hdone : transact (appendOrderStateTransitionEvent orderId
        (Risk.transitionOrderState fromState toState reasonCode message) occurredAt) faults w.tables with
    | mk result tables =>
      cases result with
      | error e =>
        obtain rfl := transact_throws hdone
        exact h
      | ok event =>
        obtain ⟨session, hrun, rfl⟩ := transact_ok hdone
        obtain ⟨hconsistent, hsame⟩ := appendOrderStateTransitionEvent_ok h.consistent hrun
        exact h.same hconsistent hsame

/-- **Orders agree with their events.** After any transactions in any order, under any faults: every order was created
by one execution, has its fills and no others, and stands where its accepted events lead from RISK_APPROVED; no two
orders share a key; and the positions are what the fills make of them. -/
theorem orders_agree_with_events (calls : List (StoreCall × List (Option Thrown))) : (runStore calls).Sound := by
  unfold runStore
  induction calls using List.reverseRecOn with
  | nil => exact sound_initial
  | append_singleton calls call ih =>
    rw [List.foldl_append]
    exact ih.step call

end Runs

end SeeMirai.Paper
