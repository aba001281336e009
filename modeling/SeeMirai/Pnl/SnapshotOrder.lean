/-
The order in which snapshots arrive (calculator.ts, selectEffectiveSnapshots). Of the snapshots of one scope the latest
is kept; of two at the same time the one with the greater tie-break key, which is built from scope, time and the four
amounts. The key leaves the payload out, so two snapshots that differ in nothing else are told apart by their order
only; and a key that cannot be built throws, which a later snapshot of the scope may or may not forestall.

Results:
- `compareSnapshotCandidate_order`: where it answers, the comparison is a total preorder.
- `selection_perm`: where no tie is left to the order (`TieSettled`), permuted snapshots give the same selection, up to
  what no total or status reads.
-/
import SeeMirai.Pnl.Snapshots

namespace SeeMirai.Pnl

open Fallible

variable [Host]

/-! ## What is read of a snapshot -/

def PnLSnapshotFact.amounts (s : PnLSnapshotFact) : List (Option ℚ) :=
  [Host.valueOf s.equity, Host.valueOf s.realizedPnl, Host.valueOf s.unrealizedPnl, Host.valueOf s.drawdownBps]

/-- all four amounts are decimals -/
def PnLSnapshotFact.Parses (s : PnLSnapshotFact) : Prop := ∀ a ∈ s.amounts, a.isSome

/-- what totals, scopes and status read of a selected snapshot -/
structure SnapshotView where
  scope : String × Option String
  time : Option Int
  equity : Option ℚ
  realizedPnl : Option ℚ
  unrealizedPnl : Option ℚ
  status : PnLAccountingStatus
  explained : Bool
deriving DecidableEq

def PnLSnapshotFact.view (s : PnLSnapshotFact) : SnapshotView where
  scope := s.scope
  time := s.capturedAt.millis
  equity := Host.valueOf s.equity
  realizedPnl := Host.valueOf s.realizedPnl
  unrealizedPnl := Host.valueOf s.unrealizedPnl
  status := resolveSnapshotStatus s
  explained := snapshotPayloadReasons s = []

theorem view_congr {s s' : PnLSnapshotFact} (hscope : s.scope = s'.scope)
    (htime : s.capturedAt.millis = s'.capturedAt.millis) (hamounts : s.amounts = s'.amounts)
    (hstatus : resolveSnapshotStatus s = resolveSnapshotStatus s')
    (hreasons : snapshotPayloadReasons s = [] ↔ snapshotPayloadReasons s' = []) : s.view = s'.view := by
  simp only [PnLSnapshotFact.amounts, List.cons.injEq, and_true] at hamounts
  simp only [PnLSnapshotFact.view, hscope, htime, hamounts, hstatus, hreasons]

/-- no snapshot of the same scope is later -/
def Newest (snapshots : List PnLSnapshotFact) (s : PnLSnapshotFact) : Prop :=
  ∀ o ∈ snapshots, o.scope = s.scope → NoLater o s

/-- two snapshots of one scope and one time are not told apart by their order: a superseded tie is not read, or can be;
a tie for the latest with equal amounts does not matter -/
def TieSettled (snapshots : List PnLSnapshotFact) (s s' : PnLSnapshotFact) : Prop :=
  s.scope = s'.scope → s.capturedAt.millis = s'.capturedAt.millis →
    (¬ Newest snapshots s → s.Parses ∧ s'.Parses) ∧
    (Newest snapshots s → s.amounts = s'.amounts → resolveSnapshotStatus s = resolveSnapshotStatus s' ∧
      (snapshotPayloadReasons s = [] ↔ snapshotPayloadReasons s' = []))

omit [Host] in
theorem Newest.congr {snapshots : List PnLSnapshotFact} {s s' : PnLSnapshotFact} (hscope : s.scope = s'.scope)
    (htime : s.capturedAt.millis = s'.capturedAt.millis) : Newest snapshots s ↔ Newest snapshots s' := by
  unfold Newest NoLater
  rw [hscope, htime]

theorem TieSettled.symm {snapshots : List PnLSnapshotFact} {s s' : PnLSnapshotFact} (h : TieSettled snapshots s s') :
    TieSettled snapshots s' s := by
  intro hscope htime
  obtain ⟨hold, hnew⟩ := h hscope.symm htime.symm
  rw [Newest.congr hscope htime]
  exact ⟨fun hn => (hold hn).symm, fun hn ha => (hnew hn ha.symm).imp Eq.symm Iff.symm⟩

/-! ## The comparison -/

theorem createSnapshotTieBreakKey_ok {s : PnLSnapshotFact} {key : String} :
    createSnapshotTieBreakKey s = .ok key ↔ ∃ t e r u d, s.capturedAt.millis = some t ∧
      s.amounts = [some e, some r, some u, some d] ∧
      key = JsonText.stringify [some s.strategyId, s.market, some (Int.repr t), some (Host.toFixed e),
        some (Host.toFixed r), some (Host.toFixed u), some (Host.toFixed d)] := by
  unfold createSnapshotTieBreakKey PnLSnapshotFact.amounts
  simp only [bind_eq_ok, toTime_eq_ok, parseFinancialDecimal_eq_ok, pure_eq_ok, List.cons.injEq, and_true]
  constructor
  · rintro ⟨t, ht, e, he, r, hr, u, hu, d, hd, rfl⟩
    exact ⟨t, e, r, u, d, ht, ⟨he, hr, hu, hd⟩, rfl⟩
  · rintro ⟨t, e, r, u, d, ht, ⟨he, hr, hu, hd⟩, rfl⟩
    exact ⟨t, ht, e, he, r, hr, u, hu, d, hd, rfl⟩

theorem createSnapshotTieBreakKey_total {s : PnLSnapshotFact} (ht : s.capturedAt.millis.isSome) (hp : s.Parses) :
    ∃ key, createSnapshotTieBreakKey s = .ok key := by
  obtain ⟨t, ht⟩ := Option.isSome_iff_exists.1 ht
  obtain ⟨e, he⟩ := Option.isSome_iff_exists.1 (hp (Host.valueOf s.equity) (by simp [PnLSnapshotFact.amounts]))
  obtain ⟨r, hr⟩ := Option.isSome_iff_exists.1 (hp (Host.valueOf s.realizedPnl) (by simp [PnLSnapshotFact.amounts]))
  obtain ⟨u, hu⟩ := Option.isSome_iff_exists.1 (hp (Host.valueOf s.unrealizedPnl) (by simp [PnLSnapshotFact.amounts]))
  obtain ⟨d, hd⟩ := Option.isSome_iff_exists.1 (hp (Host.valueOf s.drawdownBps) (by simp [PnLSnapshotFact.amounts]))
  exact ⟨_, createSnapshotTieBreakKey_ok.2 ⟨t, e, r, u, d, ht, by simp [PnLSnapshotFact.amounts, he, hr, hu, hd], rfl⟩⟩

theorem createSnapshotTieBreakKey_parses {s : PnLSnapshotFact} {key : String}
    (h : createSnapshotTieBreakKey s = .ok key) : s.Parses := by
  obtain ⟨t, e, r, u, d, -, ha, -⟩ := createSnapshotTieBreakKey_ok.1 h
  intro a hmem
  rw [ha] at hmem
  simp only [List.mem_cons, List.not_mem_nil, or_false] at hmem
  rcases hmem with rfl | rfl | rfl | rfl <;> rfl

/-- the tie-break key separates the amounts -/
theorem createSnapshotTieBreakKey_inj [Host.Lawful ‹Host›] {s s' : PnLSnapshotFact} {key : String}
    (h : createSnapshotTieBreakKey s = .ok key) (h' : createSnapshotTieBreakKey s' = .ok key) :
    s.amounts = s'.amounts := by
  obtain ⟨t, e, r, u, d, -, ha, hkey⟩ := createSnapshotTieBreakKey_ok.1 h
  obtain ⟨t', e', r', u', d', -, ha', hkey'⟩ := createSnapshotTieBreakKey_ok.1 h'
  have hfields := JsonText.stringify_injective (hkey.symm.trans hkey')
  simp only [List.cons.injEq, Option.some.injEq, and_true] at hfields
  obtain ⟨-, -, -, he, hr, hu, hd⟩ := hfields
  have hs : Host.valueOf s.equity = some e ∧ Host.valueOf s.realizedPnl = some r ∧
      Host.valueOf s.unrealizedPnl = some u ∧ Host.valueOf s.drawdownBps = some d := by
    simpa [PnLSnapshotFact.amounts] using ha
  have hs' : Host.valueOf s'.equity = some e' ∧ Host.valueOf s'.realizedPnl = some r' ∧
      Host.valueOf s'.unrealizedPnl = some u' ∧ Host.valueOf s'.drawdownBps = some d' := by
    simpa [PnLSnapshotFact.amounts] using ha'
  rw [ha, ha', Host.Lawful.toFixed_inj hs.1 hs'.1 he, Host.Lawful.toFixed_inj hs.2.1 hs'.2.1 hr,
    Host.Lawful.toFixed_inj hs.2.2.1 hs'.2.2.1 hu, Host.Lawful.toFixed_inj hs.2.2.2 hs'.2.2.2 hd]

def tieKey (s : PnLSnapshotFact) : String := (createSnapshotTieBreakKey s).toOption.getD ""

/-- the comparison without its errors -/
def snapshotOrder (left right : PnLSnapshotFact) : Ordering :=
  (compare left.capturedAt.millis right.capturedAt.millis).then (Host.localeCompare (tieKey left) (tieKey right))

theorem snapshotOrder_trans [Host.Lawful ‹Host›] : Std.TransCmp snapshotOrder :=
  transCmp_then (transCmp_on (inferInstanceAs (Std.TransCmp (compare : Option Int → Option Int → Ordering))) _)
    (transCmp_on Host.Lawful.trans _)

theorem compareSnapshotCandidate_order {l r : PnLSnapshotFact} (hl : l.capturedAt.millis.isSome)
    (hr : r.capturedAt.millis.isSome) (hp : l.capturedAt.millis = r.capturedAt.millis → l.Parses ∧ r.Parses) :
    compareSnapshotCandidate l r = .ok (snapshotOrder l r) := by
  obtain ⟨tl, htl⟩ := Option.isSome_iff_exists.1 hl
  obtain ⟨tr, htr⟩ := Option.isSome_iff_exists.1 hr
  have hcmp : compare (some tl) (some tr) = compare tl tr := rfl
  unfold compareSnapshotCandidate snapshotOrder
  rw [toTime_eq_ok.2 htl, toTime_eq_ok.2 htr, htl, htr, hcmp]
  simp only [ok_bind]
  split
  · rename_i hne
    cases hc : compare tl tr with
    | eq => exact absurd (compare_eq_iff_eq.1 hc) hne
    | lt => rfl
    | gt => rfl
  · rename_i heq
    have heq' : tl = tr := not_not.1 heq
    subst heq'
    obtain ⟨hpl, hpr⟩ := hp (htl.trans htr.symm)
    obtain ⟨kl, hkl⟩ := createSnapshotTieBreakKey_total hl hpl
    obtain ⟨kr, hkr⟩ := createSnapshotTieBreakKey_total hr hpr
    simp [hkl, hkr, tieKey, Except.toOption]

/-- a comparison at equal times reads both amounts -/
theorem compareSnapshotCandidate_reads {l r : PnLSnapshotFact} {o : Ordering}
    (h : compareSnapshotCandidate l r = .ok o) (heq : l.capturedAt.millis = r.capturedAt.millis) :
    l.Parses ∧ r.Parses := by
  unfold compareSnapshotCandidate at h
  obtain ⟨tl, htl, h⟩ := bind_eq_ok.1 h
  obtain ⟨tr, htr, h⟩ := bind_eq_ok.1 h
  rw [toTime_eq_ok] at htl htr
  have htime : tl = tr := Option.some.inj (htl.symm.trans (heq.trans htr))
  rw [if_neg (not_not.2 htime)] at h
  obtain ⟨kl, hkl, h⟩ := bind_eq_ok.1 h
  obtain ⟨kr, hkr, -⟩ := bind_eq_ok.1 h
  exact ⟨createSnapshotTieBreakKey_parses hkl, createSnapshotTieBreakKey_parses hkr⟩

/-- where no order is strict, scope by scope, the amounts are the same -/
theorem amounts_of_order_eq [Host.Lawful ‹Host›] {l r : PnLSnapshotFact} (hl : l.capturedAt.millis.isSome)
    (hr : r.capturedAt.millis.isSome) (h : snapshotOrder l r = .eq) :
    l.capturedAt.millis = r.capturedAt.millis ∧ (l.Parses → r.Parses → l.amounts = r.amounts) := by
  have heqCmp : Std.LawfulEqCmp (Host.localeCompare) := Host.Lawful.eq
  obtain ⟨htime, hkey⟩ := Ordering.then_eq_eq.1 h
  refine ⟨Std.LawfulEqCmp.eq_of_compare htime, fun hpl hpr => ?_⟩
  obtain ⟨kl, hkl⟩ := createSnapshotTieBreakKey_total hl hpl
  obtain ⟨kr, hkr⟩ := createSnapshotTieBreakKey_total hr hpr
  have hkeys : tieKey l = tieKey r := Std.LawfulEqCmp.eq_of_compare hkey
  have hlr : kl = kr := by simpa [tieKey, hkl, hkr, Except.toOption] using hkeys
  exact createSnapshotTieBreakKey_inj hkl (hlr ▸ hkr)

/-! ## The pass -/

theorem recordSnapshot_keeps : KeepsLatest compareSnapshotCandidate PnLSnapshotFact.scope
    (fun (latest : LatestByStrategy) k => latest.lookup k.1 k.2) recordSnapshot where
  get latest s latest' h := by
    obtain ⟨w, hw, hget⟩ := recordSnapshot_lookup h
    refine ⟨w, hw, fun k => ?_⟩
    rw [hget k.1 k.2]
    exact if_congr (by rw [PnLSnapshotFact.scope, Prod.ext_iff]) rfl rfl
  ok latest s w h := by
    have hold : ((latest.get s.strategyId).getD InsertionMap.empty).get s.market
        = latest.lookup s.strategyId s.market := by
      unfold LatestByStrategy.lookup
      cases latest.get s.strategyId <;> rfl
    obtain ⟨byMarket, hkeep⟩ := (keepLatest_keeps compareSnapshotCandidate PnLSnapshotFact.market).ok
      ((latest.get s.strategyId).getD InsertionMap.empty) s w (by rw [hold]; exact h)
    exact ⟨_, bind_eq_ok.2 ⟨byMarket, hkeep, rfl⟩⟩

/-- two snapshots of one scope and one time can both be read -/
def TiesRead (snapshots : List PnLSnapshotFact) : Prop :=
  snapshots.Pairwise fun s s' => s.scope = s'.scope → s.capturedAt.millis = s'.capturedAt.millis → s.Parses ∧ s'.Parses

def Dated (snapshots : List PnLSnapshotFact) : Prop := ∀ s ∈ snapshots, s.capturedAt.millis.isSome

theorem TiesRead.perm {xs ys : List PnLSnapshotFact} (hp : xs.Perm ys) (h : TiesRead xs) : TiesRead ys :=
  (hp.pairwise_iff (fun hr hs ht => (hr hs.symm ht.symm).symm)).1 h

theorem TiesRead.of_mem {xs : List PnLSnapshotFact} (h : TiesRead xs) {s s' : PnLSnapshotFact} (hs : s ∈ xs)
    (hs' : s' ∈ xs) (hne : s ≠ s') :
    s.scope = s'.scope → s.capturedAt.millis = s'.capturedAt.millis → s.Parses ∧ s'.Parses := by
  have hsymm : Std.Symm (fun s s' : PnLSnapshotFact => s.scope = s'.scope →
      s.capturedAt.millis = s'.capturedAt.millis → s.Parses ∧ s'.Parses) :=
    ⟨fun _ _ hr hscope htime => (hr hscope.symm htime.symm).symm⟩
  exact List.Pairwise.forall h hs hs' hne

omit [Host] in
theorem Dated.perm {xs ys : List PnLSnapshotFact} (hp : xs.Perm ys) (h : Dated xs) : Dated ys :=
  fun s hs => h s (hp.mem_iff.2 hs)

section Run

variable {xs ys : List PnLSnapshotFact} {latest latest' : LatestByStrategy}

theorem pass_of_run (h : xs.foldlM recordSnapshot InsertionMap.empty = .ok latest) (k : String × Option String) :
    pickPass compareSnapshotCandidate none (xs.filter (·.scope = k)) = .ok (latest.lookup k.1 k.2) :=
  recordSnapshot_keeps.pass_get h k

/-- in a run that returned, the ties for the latest were read; the others can be -/
theorem tiesRead_of_run (hd : Dated xs) (hties : xs.Pairwise (TieSettled xs))
    (h : xs.foldlM recordSnapshot InsertionMap.empty = .ok latest) : TiesRead xs := by
  have hnew : ∀ k : String × Option String, (xs.filter (·.scope = k)).Pairwise
      (fun x y => Newest xs x → x.capturedAt.millis = y.capturedAt.millis → x.Parses ∧ y.Parses) := by
    intro k
    have hpass := pass_of_run h k
    cases hl : latest.lookup k.1 k.2 with
    | none => rw [(pickPass_mem hpass).1.1 hl]; exact List.Pairwise.nil
    | some w =>
      have hw := List.mem_filter.1 ((pickPass_mem hpass).2 w hl)
      rw [hl] at hpass
      have hties := pickPass_ties (fun s => s.capturedAt.millis.getD 0) PnLSnapshotFact.Parses
        (fun a b o ho hlt hgt => by
          obtain ⟨ta, tb, ha, hb, hle, -⟩ := compareSnapshotCandidate_times ho
          simp only [ha, hb, Option.getD_some] at hlt
          exact absurd (hle hgt) (not_le.2 hlt))
        (fun a b o ho hlt => by
          obtain ⟨ta, tb, ha, hb, -, hle⟩ := compareSnapshotCandidate_times ho
          simp only [ha, hb, Option.getD_some] at hlt
          by_contra hne
          exact absurd (hle hne) (not_le.2 hlt))
        (fun a b o ho heq => by
          obtain ⟨ta, tb, ha, hb, -, -⟩ := compareSnapshotCandidate_times ho
          simp only [ha, hb, Option.getD_some] at heq
          exact compareSnapshotCandidate_reads ho (by rw [ha, hb, heq])) hpass
      refine hties.2.imp_of_mem fun {x y} hx hy hread hnewest htime => ?_
      have hxk := List.mem_filter.1 hx
      have hscope : w.scope = x.scope := (of_decide_eq_true hw.2).trans (of_decide_eq_true hxk.2).symm
      obtain ⟨tw, htw⟩ := Option.isSome_iff_exists.1 (hd w hw.1)
      obtain ⟨tx, htx, hle⟩ := hnewest w hw.1 hscope tw htw
      have hge := hties.1 x hx
      simp only [htw, htx, Option.getD_some] at hge
      have hrank : x.capturedAt.millis.getD 0 = w.capturedAt.millis.getD 0 := by
        simp only [htw, htx, Option.getD_some]; omega
      exact hread hrank (by rw [← htime]; exact hrank)
  refine (hties.and (pairwise_of_groups hnew)).imp fun {x y} hxy hscope htime => ?_
  by_cases hn : Newest xs x
  · exact hxy.2 hscope hn htime
  · exact (hxy.1 hscope htime).1 hn

/-- where ties can be read the pass over each scope keeps a greatest snapshot -/
theorem pass_greatest [Host.Lawful ‹Host›] (hd : Dated xs) (hr : TiesRead xs) (k : String × Option String) :
    ∃ kept, pickPass compareSnapshotCandidate none (xs.filter (·.scope = k)) = .ok kept ∧
      ∀ w, kept = some w → ∀ x ∈ xs.filter (·.scope = k), (snapshotOrder x w).isLE := by
  have htrans := snapshotOrder_trans
  refine pickPass_greatest snapshotOrder ((hr.sublist List.filter_sublist).imp_of_mem fun {x y} hx hy hread => ?_)
  have hxk := List.mem_filter.1 hx
  have hyk := List.mem_filter.1 hy
  have hscope : x.scope = y.scope := (of_decide_eq_true hxk.2).trans (of_decide_eq_true hyk.2).symm
  exact compareSnapshotCandidate_order (hd y hyk.1) (hd x hxk.1) fun htime => (hread hscope htime.symm).symm

theorem run_of_tiesRead [Host.Lawful ‹Host›] (hd : Dated xs) (hr : TiesRead xs) :
    ∃ latest, xs.foldlM recordSnapshot InsertionMap.empty = .ok latest :=
  recordSnapshot_keeps.pass_ok fun k => (pass_greatest hd hr k).imp fun _ h => h.1

theorem greatest_of_run [Host.Lawful ‹Host›] (hd : Dated xs) (hr : TiesRead xs)
    (h : xs.foldlM recordSnapshot InsertionMap.empty = .ok latest) {k : String × Option String} {w : PnLSnapshotFact}
    (hw : latest.lookup k.1 k.2 = some w) : ∀ x ∈ xs, x.scope = k → (snapshotOrder x w).isLE := by
  obtain ⟨kept, hkept, hmax⟩ := pass_greatest hd hr k
  have hsame : latest.lookup k.1 k.2 = kept := Except.ok.inj ((pass_of_run h k).symm.trans hkept)
  intro x hx hscope
  exact hmax w (hsame ▸ hw) x (List.mem_filter.2 ⟨hx, by simp [hscope]⟩)

/-- **What is kept does not depend on the order**, up to what is read of it. -/
theorem kept_views [Host.Lawful ‹Host›] (hp : xs.Perm ys) (hd : Dated xs) (hties : xs.Pairwise (TieSettled xs))
    (h : xs.foldlM recordSnapshot InsertionMap.empty = .ok latest)
    (h' : ys.foldlM recordSnapshot InsertionMap.empty = .ok latest') (k : String × Option String) :
    (latest.lookup k.1 k.2).map PnLSnapshotFact.view = (latest'.lookup k.1 k.2).map PnLSnapshotFact.view := by
  have hr := tiesRead_of_run hd hties h
  have hm := pickPass_mem (pass_of_run h k)
  have hm' := pickPass_mem (pass_of_run h' k)
  have hempty : xs.filter (·.scope = k) = [] ↔ ys.filter (·.scope = k) = [] := by
    rw [← List.length_eq_zero_iff, ← List.length_eq_zero_iff, (hp.filter _).length_eq]
  cases hw : latest.lookup k.1 k.2 with
  | none => rw [hm'.1.2 (hempty.1 (hm.1.1 hw))]
  | some w =>
    cases hw' : latest'.lookup k.1 k.2 with
    | none =>
      rw [hm.1.2 (hempty.2 (hm'.1.1 hw'))] at hw
      cases hw
    | some w' =>
      have hwk := List.mem_filter.1 (hm.2 w hw)
      have hwk' := List.mem_filter.1 (hm'.2 w' hw')
      have hwx := hp.mem_iff.2 hwk'.1
      have hs : w.scope = k := of_decide_eq_true hwk.2
      have hs' : w'.scope = k := of_decide_eq_true hwk'.2
      have hscope : w.scope = w'.scope := hs.trans hs'.symm
      by_cases heq : w = w'
      · rw [heq]
      · -- each is greatest, so neither is strictly before the other
        have htrans := snapshotOrder_trans
        have hle' := greatest_of_run hd hr h hw w' hwx hs'
        have hle := greatest_of_run (hd.perm hp) (hr.perm hp) h' hw' w (hp.mem_iff.1 hwk.1) hs
        obtain ⟨htime, hamounts⟩ := amounts_of_order_eq (hd w hwk.1) (hd w' hwx)
          (Std.OrientedCmp.isLE_antisymm hle hle')
        have hread := (TiesRead.of_mem hr hwk.1 hwx heq) hscope htime
        have hnew : Newest xs w := by
          intro o ho hos
          exact ((kept_of_run h).newest _ _ w hw).2 o ho (congrArg Prod.fst hos) (congrArg Prod.snd hos)
        have hsymm : Std.Symm (TieSettled xs) := ⟨fun _ _ => TieSettled.symm⟩
        obtain ⟨hstatus, hreasons⟩ := (hties.forall hwk.1 hwx heq hscope htime).2 hnew (hamounts hread.1 hread.2)
        rw [Option.map_some, Option.map_some,
          view_congr hscope htime (hamounts hread.1 hread.2) hstatus hreasons]

end Run

/-! ## The selection -/

section Selection

variable {latest latest' : LatestByStrategy}

/-- the same scopes are kept, with the same things to read -/
def SameKept (latest latest' : LatestByStrategy) : Prop :=
  ∀ st mk, (latest.lookup st mk).map PnLSnapshotFact.view = (latest'.lookup st mk).map PnLSnapshotFact.view

theorem SameKept.symm (h : SameKept latest latest') : SameKept latest' latest := fun st mk => (h st mk).symm

theorem SameKept.some (h : SameKept latest latest') {st : String} {mk : Option String} {s : PnLSnapshotFact}
    (hs : latest.lookup st mk = some s) : ∃ s', latest'.lookup st mk = some s' ∧ s'.view = s.view := by
  have hview := h st mk
  rw [hs] at hview
  exact Option.map_eq_some_iff.1 hview.symm

theorem noLater_views {a a' b b' : PnLSnapshotFact} (ha : a'.view = a.view) (hb : b'.view = b.view) :
    NoLater a' b' ↔ NoLater a b := by
  have hta : a'.capturedAt.millis = a.capturedAt.millis := congrArg SnapshotView.time ha
  have htb : b'.capturedAt.millis = b.capturedAt.millis := congrArg SnapshotView.time hb
  unfold NoLater
  rw [hta, htb]

theorem SameKept.stands (h : SameKept latest latest') {s s' : PnLSnapshotFact} (hv : s'.view = s.view)
    (hst : Stands latest s) : Stands latest' s' := by
  have hscope : s'.scope = s.scope := congrArg SnapshotView.scope hv
  have hstrategy : s'.strategyId = s.strategyId := congrArg Prod.fst hscope
  have hmarket : s'.market = s.market := congrArg Prod.snd hscope
  refine ⟨fun hnone mk m' hmk hl => ?_, fun hsome a' hl => ?_⟩
  · obtain ⟨m, hm, hmv⟩ := h.symm.some hl
    rw [hstrategy] at hm
    exact (noLater_views hmv hv.symm).1 (hst.1 (hmarket ▸ hnone) mk m hmk hm)
  · obtain ⟨a, ha, hav⟩ := h.symm.some hl
    rw [hstrategy] at ha
    exact fun hle => hst.2 (hmarket ▸ hsome) a ha ((noLater_views hv.symm hav).2 hle)

theorem SelectionSpec.mem_view {selection selection' : SnapshotSelection} (h : SameKept latest latest')
    (hs : SelectionSpec latest selection) (hs' : SelectionSpec latest' selection') {v : SnapshotView}
    (hv : v ∈ selection.snapshots.map PnLSnapshotFact.view) : v ∈ selection'.snapshots.map PnLSnapshotFact.view := by
  obtain ⟨s, hmem, rfl⟩ := List.mem_map.1 hv
  obtain ⟨hl, hstands⟩ := (hs.mem s).1 hmem
  obtain ⟨s', hl', hview⟩ := h.some hl
  have hscope : s'.scope = s.scope := congrArg SnapshotView.scope hview
  refine List.mem_map.2 ⟨s', (hs'.mem s').2 ⟨?_, h.stands hview hstands⟩, hview⟩
  rw [show s'.strategyId = s.strategyId from congrArg Prod.fst hscope,
    show s'.market = s.market from congrArg Prod.snd hscope]
  exact hl'

theorem SelectionSpec.views_nodup {selection : SnapshotSelection} (hs : SelectionSpec latest selection) :
    (selection.snapshots.map PnLSnapshotFact.view).Nodup := by
  refine List.Nodup.of_map SnapshotView.scope ?_
  rw [List.map_map]
  exact hs.nodup

theorem SelectionSpec.reasons_iff {selection selection' : SnapshotSelection} (h : SameKept latest latest')
    (hs : SelectionSpec latest selection) (hs' : SelectionSpec latest' selection')
    (hnil : selection.missingReasons = []) : selection'.missingReasons = [] := by
  rw [hs'.reasons]
  intro st a' ha' mk m' hmk hm'
  obtain ⟨a, ha, hav⟩ := h.symm.some ha'
  obtain ⟨m, hm, hmv⟩ := h.symm.some hm'
  exact (noLater_views hmv hav).1 (hs.reasons.1 hnil st a ha mk m hmk hm)

theorem compareSnapshotScope_trans [Host.Lawful ‹Host›] : Std.TransCmp compareSnapshotScope :=
  transCmp_then (transCmp_on Host.Lawful.trans _) (transCmp_on Host.Lawful.trans _)

/-- the scope order separates selected snapshots: a strategy's aggregate never stands beside a market of that strategy,
not even beside the market with the empty name -/
theorem SelectionSpec.separated [Host.Lawful ‹Host›] {selection : SnapshotSelection}
    (hs : SelectionSpec latest selection) {a b : PnLSnapshotFact} (ha : a ∈ selection.snapshots)
    (hb : b ∈ selection.snapshots) (h : compareSnapshotScope a b = .eq) : a = b := by
  have heqCmp : Std.LawfulEqCmp (Host.localeCompare) := Host.Lawful.eq
  obtain ⟨hst, hmk⟩ := Ordering.then_eq_eq.1 h
  have hstrategy : a.strategyId = b.strategyId := Std.LawfulEqCmp.eq_of_compare hst
  have hmarket : a.market.getD "" = b.market.getD "" := Std.LawfulEqCmp.eq_of_compare hmk
  obtain ⟨hla, hsa⟩ := (hs.mem a).1 ha
  obtain ⟨hlb, hsb⟩ := (hs.mem b).1 hb
  have hsame : a.market = b.market := by
    cases hma : a.market with
    | none =>
      cases hmb : b.market with
      | none => rfl
      | some m =>
        rw [hmb, ← hstrategy] at hlb
        exact absurd (hsa.1 hma (some m) b (by simp) hlb) (hsb.2 (by simp [hmb]) a (by rw [← hstrategy, ← hma]; exact hla))
    | some m =>
      cases hmb : b.market with
      | none =>
        rw [hma, hstrategy] at hla
        exact absurd (hsb.1 hmb (some m) a (by simp) hla) (hsa.2 (by simp [hma]) b (by rw [hstrategy, ← hmb]; exact hlb))
      | some m' => simpa [hma, hmb] using hmarket
  rw [hstrategy, hsame, hlb] at hla
  exact (Option.some.inj hla).symm

theorem selectEffectiveSnapshots_sorted [Host.Lawful ‹Host›] {snapshots : List PnLSnapshotFact}
    {selection : SnapshotSelection} (h : selectEffectiveSnapshots snapshots = .ok selection) :
    selection.snapshots.Pairwise (fun a b => (compareSnapshotScope a b).isLE) := by
  have htrans := compareSnapshotScope_trans
  obtain ⟨latest, -, h⟩ := bind_eq_ok.1 h
  obtain ⟨selected, -, h⟩ := bind_eq_ok.1 h
  rw [pure_eq_ok] at h
  subst h
  exact stableSort_pairwise

omit [Host] in
theorem selectLayer_total {group : List PnLSnapshotFact} (hd : Dated group) : ∃ layer, selectLayer group = .ok layer := by
  have hmarkets : Dated (group.filter (·.market.isSome)) := fun s hs => hd s (List.mem_filter.1 hs).1
  have htime : ∀ s : PnLSnapshotFact, s.capturedAt.millis.isSome → ∃ t, toTime s.capturedAt = .ok t :=
    fun s hs => (Option.isSome_iff_exists.1 hs).imp fun t ht => toTime_eq_ok.2 ht
  unfold selectLayer
  cases hagg : group.find? (·.market.isNone) with
  | none => exact ⟨_, rfl⟩
  | some a =>
    obtain ⟨ta, hta⟩ := htime a (hd a (List.mem_of_find?_eq_some hagg))
    obtain ⟨times, htimes⟩ := mapM_total (fun s hs => htime s (hmarkets s hs))
    simp only [hta, htimes, ok_bind]
    split_ifs
    · exact ⟨_, rfl⟩
    · exact ⟨_, rfl⟩
    · exact ⟨_, rfl⟩

/-- with every snapshot dated and every tie readable the selection returns -/
theorem selectEffectiveSnapshots_total [Host.Lawful ‹Host›] {snapshots : List PnLSnapshotFact} (hd : Dated snapshots)
    (hr : TiesRead snapshots) : ∃ selection, selectEffectiveSnapshots snapshots = .ok selection := by
  obtain ⟨latest, hrun⟩ := run_of_tiesRead hd hr
  have hkept := kept_of_run hrun
  have hdated : Dated latest.kept := fun s hs => hd s (hkept.newest _ _ s ((mem_kept hkept.scope).1 hs)).1
  have hgroups : ∀ group ∈ (groupByStrategy latest.kept).values, ∃ layer, selectLayer group = .ok layer := by
    intro group hgroup
    obtain ⟨e, he, rfl⟩ := List.mem_map.1 hgroup
    refine selectLayer_total fun s hs => ?_
    rw [(groupByStrategy_entries latest.kept e he).1] at hs
    exact hdated s (List.mem_filter.1 hs).1
  obtain ⟨layers, hlayers⟩ := mapM_total hgroups
  exact ⟨_, bind_eq_ok.2 ⟨latest, hrun, bind_eq_ok.2 ⟨_, bind_eq_ok.2 ⟨layers, hlayers, rfl⟩, rfl⟩⟩⟩

/-- **The selection does not depend on the order of the snapshots**, where no tie is left to it. -/
theorem selection_perm [Host.Lawful ‹Host›] {xs ys : List PnLSnapshotFact} (hp : xs.Perm ys) (hd : Dated xs)
    (hties : xs.Pairwise (TieSettled xs)) {selection : SnapshotSelection}
    (h : selectEffectiveSnapshots xs = .ok selection) :
    ∃ selection', selectEffectiveSnapshots ys = .ok selection' ∧
      selection.snapshots.map PnLSnapshotFact.view = selection'.snapshots.map PnLSnapshotFact.view ∧
      (selection.missingReasons = [] ↔ selection'.missingReasons = []) := by
  obtain ⟨latest, hrun, hspec⟩ := selectEffectiveSnapshots_run h
  obtain ⟨selection', h'⟩ := selectEffectiveSnapshots_total (hd.perm hp) ((tiesRead_of_run hd hties hrun).perm hp)
  obtain ⟨latest', hrun', hspec'⟩ := selectEffectiveSnapshots_run h'
  have hsame : SameKept latest latest' := fun st mk => kept_views hp hd hties hrun hrun' (st, mk)
  refine ⟨selection', h', ?_, hspec.reasons_iff hsame hspec', hspec'.reasons_iff hsame.symm hspec⟩
  have hperm : (selection.snapshots.map PnLSnapshotFact.view).Perm (selection'.snapshots.map PnLSnapshotFact.view) :=
    (List.perm_ext_iff_of_nodup hspec.views_nodup hspec'.views_nodup).2 fun v =>
      ⟨hspec.mem_view hsame hspec', hspec'.mem_view hsame.symm hspec⟩
  have htrans := compareSnapshotScope_trans
  -- both lists are sorted by a comparator that separates their elements
  let order : SnapshotView → SnapshotView → Ordering := fun v w =>
    (Host.localeCompare v.scope.1 w.scope.1).then (Host.localeCompare (v.scope.2.getD "") (w.scope.2.getD ""))
  have hsorted : (selection.snapshots.map PnLSnapshotFact.view).Pairwise (fun v w => (order v w).isLE) :=
    List.pairwise_map.2 (selectEffectiveSnapshots_sorted h)
  refine List.Perm.eq_of_pairwise ?_ hsorted (List.pairwise_map.2 (selectEffectiveSnapshots_sorted h')) hperm
  intro v w hv hw hvw hwv
  obtain ⟨a, ha, rfl⟩ := List.mem_map.1 hv
  obtain ⟨b, hb, rfl⟩ := List.mem_map.1 (hperm.mem_iff.2 hw)
  rw [hspec.separated ha hb (Std.OrientedCmp.isLE_antisymm hvw hwv)]

end Selection

end SeeMirai.Pnl
