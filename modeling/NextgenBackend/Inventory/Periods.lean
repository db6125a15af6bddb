import Mathlib
import NextgenBackend.Inventory.Counting

namespace NextgenBackend.Periods

open Txn Inventory RoutesStocktake

def period (s : StocktakeSession) : Set Instant :=
  {moment | (∀ start ∈ s.periodStartAt, start < moment) ∧ moment ≤ s.cutoffAt}

-- Sessions are listed in the order they were opened in.
structure Tiled (t : Tables) : Prop where
  ordered : ∀ s ∈ t.stocktakeSessions, ∀ start ∈ s.periodStartAt, start ≤ s.cutoffAt
  disjoint : ∀ businessId, (withStatus businessId .approved t).Pairwise fun a b =>
    Disjoint (period a) (period b)
  sorted : ∀ businessId, (withStatus businessId .approved t).Pairwise fun a b =>
    a.cutoffAt ≤ b.cutoffAt
  adjacent : ∀ businessId, (withStatus businessId .approved t).IsChain fun a b =>
    b.periodStartAt = some a.cutoffAt

def OpensForward (db : Database) (event : StockEvent) (_ : Database) : Prop :=
  match event with
  | .served (.openStocktake user _ body) (.ok _) =>
      ∀ previous ∈ previousSession user.businessId db.toTables,
        previous.cutoffAt ≤ body.cutoffAt.getD db.now
  | _ => True

def isOpen (s : StocktakeSession) : Bool :=
  s.status = .draft || s.status = .completed

def Successive : Option Instant → List StocktakeSession → Prop
  | _, [] => True
  | last, s :: rest =>
      s.periodStartAt = last ∧ (∀ start ∈ last, start ≤ s.cutoffAt) ∧
        (isOpen s = true → rest = []) ∧
          Successive (if s.status = .approved then some s.cutoffAt else last) rest

def lastCutoff : Option Instant → List StocktakeSession → Option Instant
  | last, [] => last
  | last, s :: rest => lastCutoff (if s.status = .approved then some s.cutoffAt else last) rest

section Sequences

variable {last : Option Instant} {sessions : List StocktakeSession} {s : StocktakeSession}

theorem successive_ordered (h : Successive last sessions) :
    ∀ s ∈ sessions, ∀ start ∈ s.periodStartAt, start ≤ s.cutoffAt := by
  induction sessions generalizing last with
  | nil => simp
  | cons s rest ih =>
      obtain ⟨hstart, hforward, -, hrest⟩ := h
      intro s' hs'
      rcases List.mem_cons.mp hs' with rfl | hs'
      · rw [hstart]
        exact hforward
      · exact ih hrest s' hs'

theorem successive_after {cutoff : Instant} (h : Successive (some cutoff) sessions) :
    ∀ s ∈ sessions, ∃ start ∈ s.periodStartAt, cutoff ≤ start := by
  induction sessions generalizing cutoff with
  | nil => simp
  | cons s rest ih =>
      obtain ⟨hstart, hforward, -, hrest⟩ := h
      intro s' hs'
      rcases List.mem_cons.mp hs' with rfl | hs'
      · exact ⟨cutoff, hstart, le_refl _⟩
      · by_cases happroved : s.status = .approved
        · rw [if_pos happroved] at hrest
          obtain ⟨start, hmem, hle⟩ := ih hrest s' hs'
          have hcutoff : cutoff ≤ s.cutoffAt := hforward cutoff rfl
          exact ⟨start, hmem, hcutoff.trans hle⟩
        · rw [if_neg happroved] at hrest
          exact ih hrest s' hs'

def approved (sessions : List StocktakeSession) : List StocktakeSession :=
  sessions.filter fun s => s.status = .approved

theorem approved_cons : approved (s :: sessions) =
    if s.status = .approved then s :: approved sessions else approved sessions := by
  unfold approved
  rw [List.filter_cons]
  simp

theorem successive_pairwise (h : Successive last sessions) :
    (approved sessions).Pairwise fun a b => ∃ start ∈ b.periodStartAt, a.cutoffAt ≤ start := by
  induction sessions generalizing last with
  | nil => exact List.Pairwise.nil
  | cons s rest ih =>
      obtain ⟨-, -, -, hrest⟩ := h
      rw [approved_cons]
      by_cases happroved : s.status = .approved
      · rw [if_pos happroved] at hrest ⊢
        refine List.pairwise_cons.mpr ⟨fun s' hs' => ?_, ih hrest⟩
        exact successive_after hrest s' (List.mem_filter.mp hs').1
      · rw [if_neg happroved] at hrest ⊢
        exact ih hrest

theorem successive_head (h : Successive last sessions) :
    ∀ s ∈ (approved sessions).head?, s.periodStartAt = last := by
  induction sessions generalizing last with
  | nil => simp [approved]
  | cons s rest ih =>
      obtain ⟨hstart, -, -, hrest⟩ := h
      intro s' hs'
      rw [approved_cons] at hs'
      by_cases happroved : s.status = .approved
      · rw [if_pos happroved] at hs'
        obtain rfl := Option.some.inj hs'
        exact hstart
      · rw [if_neg happroved] at hs' hrest
        exact ih hrest s' hs'

theorem successive_chain (h : Successive last sessions) :
    (approved sessions).IsChain fun a b => b.periodStartAt = some a.cutoffAt := by
  induction sessions generalizing last with
  | nil => exact List.IsChain.nil
  | cons s rest ih =>
      obtain ⟨-, -, -, hrest⟩ := h
      rw [approved_cons]
      by_cases happroved : s.status = .approved
      · rw [if_pos happroved] at hrest ⊢
        exact List.isChain_cons.mpr ⟨successive_head hrest, ih hrest⟩
      · rw [if_neg happroved] at hrest ⊢
        exact ih hrest

theorem successive_append (h : Successive last sessions) (hclosed : ∀ s ∈ sessions, isOpen s = false)
    (hstart : s.periodStartAt = lastCutoff last sessions)
    (hforward : ∀ start ∈ lastCutoff last sessions, start ≤ s.cutoffAt) :
    Successive last (sessions ++ [s]) := by
  induction sessions generalizing last with
  | nil => exact ⟨hstart, hforward, fun _ => rfl, trivial⟩
  | cons s' rest ih =>
      obtain ⟨hstart', hforward', -, hrest⟩ := h
      have hclosed' : isOpen s' = false := hclosed s' List.mem_cons_self
      refine ⟨hstart', hforward', fun hopen => ?_, ?_⟩
      · rw [hclosed'] at hopen
        cases hopen
      · exact ih hrest (fun s hs => hclosed s (List.mem_cons_of_mem _ hs)) hstart hforward

structure Advances (s s' : StocktakeSession) : Prop where
  start : s'.periodStartAt = s.periodStartAt
  cutoff : s'.cutoffAt = s.cutoffAt
  status : s'.status ≠ s.status → isOpen s = true

theorem successive_map {f : StocktakeSession → StocktakeSession} (h : Successive last sessions)
    (hf : ∀ s ∈ sessions, Advances s (f s)) : Successive last (sessions.map f) := by
  induction sessions generalizing last with
  | nil => trivial
  | cons s rest ih =>
      obtain ⟨hstart, hforward, hopen, hrest⟩ := h
      have hs : Advances s (f s) := hf s List.mem_cons_self
      have hstart' : (f s).periodStartAt = last := hs.start.trans hstart
      have hforward' : ∀ start ∈ last, start ≤ (f s).cutoffAt := by
        rw [hs.cutoff]
        exact hforward
      cases hwas : isOpen s with
      | true =>
          rw [hopen hwas]
          exact ⟨hstart', hforward', fun _ => rfl, trivial⟩
      | false =>
          have hstatus : (f s).status = s.status := by
            by_contra hne
            rw [hs.status hne] at hwas
            cases hwas
          have hclosed : isOpen (f s) = false := by
            unfold isOpen at hwas ⊢
            rw [hstatus]
            exact hwas
          refine ⟨hstart', hforward', fun hopen' => ?_, ?_⟩
          · rw [hclosed] at hopen'
            cases hopen'
          · rw [hstatus, hs.cutoff]
            exact ih hrest fun s' hs' => hf s' (List.mem_cons_of_mem _ hs')

theorem lastCutoff_mem {cutoff : Instant} (h : lastCutoff last sessions = some cutoff) :
    last = some cutoff ∨ ∃ s ∈ approved sessions, s.cutoffAt = cutoff := by
  induction sessions generalizing last with
  | nil => exact .inl h
  | cons s rest ih =>
      have hrest := ih h
      rw [approved_cons]
      by_cases happroved : s.status = .approved
      · rw [if_pos happroved] at hrest ⊢
        rcases hrest with hrest | ⟨s', hs', hcutoff⟩
        · exact .inr ⟨s, List.mem_cons_self, Option.some.inj hrest⟩
        · exact .inr ⟨s', List.mem_cons_of_mem _ hs', hcutoff⟩
      · rw [if_neg happroved] at hrest ⊢
        exact hrest

theorem le_lastCutoff (h : Successive last sessions) :
    (∀ start ∈ last, ∃ cutoff ∈ lastCutoff last sessions, start ≤ cutoff) ∧
      ∀ s ∈ approved sessions, ∃ cutoff ∈ lastCutoff last sessions, s.cutoffAt ≤ cutoff := by
  induction sessions generalizing last with
  | nil =>
      constructor
      · intro start hstart
        exact ⟨start, hstart, le_refl _⟩
      · simp [approved]
  | cons s rest ih =>
      obtain ⟨-, hforward, -, hrest⟩ := h
      obtain ⟨hlast, happr⟩ := ih hrest
      rw [approved_cons]
      unfold lastCutoff
      by_cases happroved : s.status = .approved
      · simp only [if_pos happroved] at hlast happr ⊢
        obtain ⟨cutoff, hcutoff, hle⟩ := hlast s.cutoffAt rfl
        constructor
        · intro start hstart
          exact ⟨cutoff, hcutoff, (hforward start hstart).trans hle⟩
        · intro s' hs'
          rcases List.mem_cons.mp hs' with rfl | hs'
          · exact ⟨cutoff, hcutoff, hle⟩
          · exact happr s' hs'
      · simp only [if_neg happroved] at hlast happr ⊢
        exact ⟨hlast, happr⟩

theorem disjoint_period {a b : StocktakeSession}
    (h : ∃ start ∈ b.periodStartAt, a.cutoffAt ≤ start) : Disjoint (period a) (period b) := by
  obtain ⟨start, hstart, hle⟩ := h
  rw [Set.disjoint_left]
  intro moment ha hb
  have hafter : start < moment := hb.1 start hstart
  have hbefore : moment ≤ a.cutoffAt := ha.2
  exact absurd (hbefore.trans hle) hafter.not_ge

end Sequences

def sessionsOf (businessId : Uuid) (t : Tables) : List StocktakeSession :=
  t.stocktakeSessions.filter fun s => s.businessId = businessId

def InOrder (t : Tables) : Prop :=
  ∀ businessId, Successive none (sessionsOf businessId t)

section Tables

variable {t t' : Tables} {businessId : Uuid}

theorem withStatus_sessionsOf {status : StocktakeStatus} :
    withStatus businessId status t =
      (sessionsOf businessId t).filter fun s => s.status = status := by
  unfold withStatus sessionsOf
  rw [List.filter_filter]
  congr 1
  funext s
  simp [Bool.and_comm]

theorem previousSession_some {previous : StocktakeSession}
    (h : previousSession businessId t = some previous) :
    previous ∈ withStatus businessId .approved t ∧
      ∀ s ∈ withStatus businessId .approved t, s.cutoffAt ≤ previous.cutoffAt := by
  unfold previousSession at h
  have hmem := List.mem_of_mem_head? h
  obtain ⟨rest, hsorted⟩ := List.head?_eq_some_iff.mp h
  have htrans (a b c : StocktakeSession) (hab : decide (b.cutoffAt ≤ a.cutoffAt) = true)
      (hbc : decide (c.cutoffAt ≤ b.cutoffAt) = true) : decide (c.cutoffAt ≤ a.cutoffAt) = true := by
    have hle := (of_decide_eq_true hbc).trans (of_decide_eq_true hab)
    exact decide_eq_true hle
  have htotal (a b : StocktakeSession) :
      (decide (b.cutoffAt ≤ a.cutoffAt) || decide (a.cutoffAt ≤ b.cutoffAt)) = true := by
    have hle := le_total b.cutoffAt a.cutoffAt
    simpa using hle
  have hpairwise := List.pairwise_mergeSort htrans htotal (withStatus businessId .approved t)
  rw [hsorted] at hpairwise
  have hfirst := (List.pairwise_cons.mp hpairwise).1
  refine ⟨List.mem_mergeSort.mp hmem, fun s hs => ?_⟩
  have hs' : s ∈ (withStatus businessId .approved t).mergeSort
      fun a b => decide (b.cutoffAt ≤ a.cutoffAt) := List.mem_mergeSort.mpr hs
  rw [hsorted] at hs'
  rcases List.mem_cons.mp hs' with rfl | hs'
  · exact le_refl _
  · exact of_decide_eq_true (hfirst s hs')

theorem previousSession_none (h : previousSession businessId t = none) :
    withStatus businessId .approved t = [] := by
  unfold previousSession at h
  have hnil := List.head?_eq_none_iff.mp h
  have hperm := List.mergeSort_perm (withStatus businessId .approved t)
    fun a b => decide (b.cutoffAt ≤ a.cutoffAt)
  rw [hnil] at hperm
  exact hperm.symm.eq_nil

theorem previousSession_cutoff (h : InOrder t) :
    (previousSession businessId t).map (·.cutoffAt) =
      lastCutoff none (sessionsOf businessId t) := by
  have happroved : withStatus businessId .approved t = approved (sessionsOf businessId t) :=
    withStatus_sessionsOf
  obtain ⟨-, hle⟩ := le_lastCutoff (h businessId)
  cases hprevious : previousSession businessId t with
  | none =>
      have hnil := previousSession_none hprevious
      rw [happroved] at hnil
      cases hlast : lastCutoff none (sessionsOf businessId t) with
      | none => rfl
      | some cutoff =>
          rcases lastCutoff_mem hlast with hnone | ⟨s, hs, -⟩
          · cases hnone
          · rw [hnil] at hs
            cases hs
  | some previous =>
      obtain ⟨hmem, hmax⟩ := previousSession_some hprevious
      rw [happroved] at hmem hmax
      obtain ⟨cutoff, hcutoff, hbelow⟩ := hle previous hmem
      rcases lastCutoff_mem hcutoff with hnone | ⟨s, hs, rfl⟩
      · cases hnone
      · have habove := hmax s hs
        rw [hcutoff]
        exact congrArg some (le_antisymm hbelow habove)

theorem tiled_of_inOrder (h : InOrder t) : Tiled t := by
  have happroved (businessId : Uuid) :
      withStatus businessId .approved t = approved (sessionsOf businessId t) :=
    withStatus_sessionsOf
  constructor
  · intro s hs
    have hmem : s ∈ sessionsOf s.businessId t := List.mem_filter.mpr ⟨hs, by simp⟩
    exact successive_ordered (h s.businessId) s hmem
  · intro businessId
    rw [happroved]
    exact (successive_pairwise (h businessId)).imp disjoint_period
  · intro businessId
    rw [happroved]
    have hpairwise := successive_pairwise (h businessId)
    refine hpairwise.imp_of_mem fun {a b} _ hb hafter => ?_
    obtain ⟨start, hstart, hle⟩ := hafter
    have hordered := successive_ordered (h businessId) b (List.mem_filter.mp hb).1 start hstart
    exact hle.trans hordered
  · intro businessId
    rw [happroved]
    exact successive_chain (h businessId)

theorem inOrder_nil (h : t.stocktakeSessions = []) : InOrder t := by
  intro businessId
  unfold sessionsOf
  rw [h]
  trivial

theorem inOrder_insert {s : StocktakeSession} {lines : List StocktakeLine} (h : InOrder t)
    (hnodraft : withStatus s.businessId .draft t = [])
    (hnocompleted : withStatus s.businessId .completed t = [])
    (hstart : s.periodStartAt = (previousSession s.businessId t).map (·.cutoffAt))
    (hforward : ∀ previous ∈ previousSession s.businessId t, previous.cutoffAt ≤ s.cutoffAt) :
    InOrder (insertSession s lines t) := by
  intro businessId
  have hsplit : sessionsOf businessId (insertSession s lines t) =
      sessionsOf businessId t ++ if s.businessId = businessId then [s] else [] := by
    unfold sessionsOf insertSession Table.insert
    rw [List.filter_append]
    congr 1
    by_cases hb : s.businessId = businessId <;> simp [hb]
  rw [hsplit]
  by_cases hb : s.businessId = businessId
  · subst hb
    rw [if_pos rfl]
    rw [previousSession_cutoff h] at hstart
    refine successive_append (h s.businessId) (fun s' hs' => ?_) hstart fun start hmem => ?_
    · have hdraft : s'.status ≠ .draft := by
        intro hstatus
        have hmem : s' ∈ withStatus s.businessId .draft t := by
          rw [withStatus_sessionsOf]
          exact List.mem_filter.mpr ⟨hs', by simpa using hstatus⟩
        rw [hnodraft] at hmem
        cases hmem
      have hcompleted : s'.status ≠ .completed := by
        intro hstatus
        have hmem : s' ∈ withStatus s.businessId .completed t := by
          rw [withStatus_sessionsOf]
          exact List.mem_filter.mpr ⟨hs', by simpa using hstatus⟩
        rw [hnocompleted] at hmem
        cases hmem
      simp [isOpen, hdraft, hcompleted]
    · rw [← previousSession_cutoff h] at hmem
      obtain ⟨previous, hprevious, rfl⟩ := Option.map_eq_some_iff.mp hmem
      exact hforward previous hprevious
  · rw [if_neg hb, List.append_nil]
    exact h businessId

theorem inOrder_modify {sessionId : Uuid} {set : StocktakeSession → StocktakeSession}
    (h : InOrder t) (hbusiness : ∀ s, (set s).businessId = s.businessId)
    (hset : ∀ s ∈ t.stocktakeSessions, s.id = sessionId → Advances s (set s))
    (hsessions : t'.stocktakeSessions = t.stocktakeSessions.modify sessionId set) : InOrder t' := by
  intro businessId
  have hmap : sessionsOf businessId t' =
      (sessionsOf businessId t).map fun s => if key s = sessionId then set s else s := by
    unfold sessionsOf
    rw [hsessions, Table.modify, List.filter_map]
    congr 1
    refine List.filter_congr fun s _ => ?_
    by_cases hid : key s = sessionId
    · simp [hid, hbusiness]
    · simp [hid]
  rw [hmap]
  refine successive_map (h businessId) fun s hs => ?_
  have hmem : s ∈ t.stocktakeSessions := (List.mem_filter.mp hs).1
  by_cases hid : key s = sessionId
  · rw [if_pos hid]
    exact hset s hmem hid
  · rw [if_neg hid]
    exact ⟨rfl, rfl, fun hne => absurd rfl hne⟩

end Tables

section Runs

variable {db : Database} {steps : List (StockEvent × Database)}

theorem ownSession_unique {businessId sessionId : Uuid} {s s' : StocktakeSession}
    (h : ownSession businessId sessionId db = some s) (hs' : s' ∈ db.stocktakeSessions)
    (hid : s'.id = sessionId) : s' = s := by
  have hlookup := Table.lookup_of_mem (db.valid .stocktakeSessionsPkey) hs'
  rw [show key s' = sessionId from hid, (ownSession_some h).1] at hlookup
  exact (Option.some.inj hlookup).symm

theorem inOrder_setSession {businessId sessionId : Uuid} {s : StocktakeSession}
    {set : StocktakeSession → StocktakeSession} {t' : Tables} (h : InOrder db.toTables)
    (hown : ownSession businessId sessionId db = some s) (hopen : isOpen s = true)
    (hsessions : t'.stocktakeSessions = db.stocktakeSessions.modify sessionId set)
    (hset : ∀ s, (set s).businessId = s.businessId ∧ (set s).periodStartAt = s.periodStartAt ∧
      (set s).cutoffAt = s.cutoffAt) :
    InOrder t' := by
  refine inOrder_modify h (fun s => (hset s).1) (fun s' hs' hid => ?_) hsessions
  have hsame : s' = s := ownSession_unique hown hs' hid
  subst hsame
  exact ⟨(hset s').2.1, (hset s').2.2, fun _ => hopen⟩

theorem inOrder_of_sessions {t t' : Tables} (h : InOrder t)
    (hsessions : t'.stocktakeSessions = t.stocktakeSessions) : InOrder t' := by
  intro businessId
  unfold sessionsOf
  rw [hsessions]
  exact h businessId

theorem inOrder_next {event : StockEvent} {db' : Database} (h : InOrder db.toTables)
    (hnext : NextStock db event db') (hforward : OpensForward db event db') :
    InOrder db'.toTables := by
  cases next_countStep hnext with
  | unchanged hsame => exact inOrder_of_sessions h hsame.sessions
  | posted hevent hspares => exact inOrder_of_sessions h hspares.sessions
  | opened hevent hopened =>
      subst hevent
      rw [hopened.tables]
      exact inOrder_insert h hopened.noDraft hopened.noCompleted rfl hforward
  | recounted hrecounted =>
      obtain ⟨set, -, htables⟩ := hrecounted.tables
      rw [htables]
      exact inOrder_of_sessions h rfl
  | completed hcompleted =>
      obtain ⟨s, variances, hown, hdraft, -, -, htables⟩ := hcompleted.tables
      have hopen : isOpen s = true := by simp [isOpen, hdraft]
      rw [htables]
      exact inOrder_setSession h hown hopen rfl fun _ => ⟨rfl, rfl, rfl⟩
  | approved hevent happroved =>
      obtain ⟨s, hown, hcompleted, htables⟩ := happroved.tables
      have hopen : isOpen s = true := by simp [isOpen, hcompleted]
      rw [htables]
      exact inOrder_setSession h hown hopen rfl fun _ => ⟨rfl, rfl, rfl⟩
  | cancelled hcancelled =>
      obtain ⟨s, hown, hnotapproved, hnotcancelled, htables⟩ := hcancelled.tables
      have hopen : isOpen s = true := by
        cases hstatus : s.status <;> simp_all [isOpen]
      rw [htables]
      exact inOrder_setSession h hown hopen rfl fun _ => ⟨rfl, rfl, rfl⟩

theorem run_inOrder (hrun : Run.Along NextStock db steps)
    (hforward : Run.Along OpensForward db steps) (hempty : db.stocktakeSessions = []) :
    InOrder (Run.last db steps).toTables := by
  have hboth := hrun.and hforward
  refine hboth.invariant (I := fun db => InOrder db.toTables) (inOrder_nil hempty) ?_
  intro db event db' h hstep
  exact inOrder_next h hstep.1 hstep.2

theorem opened_ordered {user : AuthUser} {sessionId : Uuid} {body : StocktakeOpenRequest}
    {now : Instant} {t t' : Tables} (h : Opened user sessionId body now t t') (htiled : Tiled t') :
    ∀ previous ∈ previousSession user.businessId t, previous.cutoffAt ≤ body.cutoffAt.getD now := by
  intro previous hprevious
  have hmem : newSession user sessionId body (previousSession user.businessId t) now ∈
      t'.stocktakeSessions := by
    rw [h.tables]
    exact List.mem_append_right _ (List.mem_singleton.mpr rfl)
  have hstart : (newSession user sessionId body (previousSession user.businessId t)
      now).periodStartAt = some previous.cutoffAt := by
    unfold newSession
    rw [Option.mem_def.mp hprevious]
    rfl
  exact htiled.ordered _ hmem _ hstart

theorem periods_tile_iff (hrun : Run.Along NextStock db steps)
    (hempty : db.stocktakeSessions = []) :
    (∀ taken, taken <+: steps → Tiled (Run.last db taken).toTables) ↔
      Run.Along OpensForward db steps := by
  constructor
  · intro htiled
    refine Run.along_iff.mpr fun taken event db' hpre => ?_
    have hnext := Run.along_iff.mp hrun taken event db' hpre
    have hafter : Tiled db'.toTables := by
      have hlast := htiled _ hpre
      rwa [Run.last_append] at hlast
    cases event with
    | environment => trivial
    | served request reply =>
        cases request with
        | openStocktake user sessionId body =>
            obtain ⟨r, hwrites, rfl⟩ := answer_run openStocktake_ensures hnext
            cases r with
            | error e => trivial
            | ok response =>
                rcases hwrites.2 with ⟨⟨e, he⟩, -⟩ | ⟨-, hopened⟩
                · cases he
                · exact opened_ordered hopened hafter
        | _ => trivial
  · intro hforward taken hpre
    have hinorder := run_inOrder (hrun.of_prefix hpre) (hforward.of_prefix hpre) hempty
    exact tiled_of_inOrder hinorder

end Runs

def flour : Ingredient where
  id := 2
  businessId := 1
  name := "Flour"
  canonicalUnit := .gram

def stockroom : Database where
  businesses := [{ id := 1, inventoryEnabled := true }]
  ingredients := [flour]
  now := 100
  valid := Tables.violation_eq_none.mp (by decide +kernel)

def manager : AuthUser where
  userId := 9
  businessId := 1
  role := .manager

theorem no_reference : ∀ text ∈ (none : Option String), text.length ≤ 64 := by simp

def countAt (cutoffAt : Instant) : StocktakeOpenRequest where
  reference := none
  cutoffAt := some cutoffAt
  notes := none
  referenceShort := no_reference

theorem kg_given : 1 ≤ "KG".length ∧ "KG".length ≤ 32 := by decide

theorem one_line : [(⟨2, "3", "KG", none, kg_given⟩ : CountLineRequest)] ≠ [] := by simp

def threeKilos : CountSubmitRequest where
  lines := [⟨2, "3", "KG", none, kg_given⟩]
  linesNonempty := one_line

def countsAt (first second : Instant) : List StockRequest :=
  [.openStocktake manager 4 (countAt first), .submitCounts manager 4 threeKilos,
    .completeStocktake manager 4, .approveStocktake manager 4 true,
    .openStocktake manager 5 (countAt second)]

theorem later_count_tiles :
    (∀ taken, taken <+: playedStock stockroom (countsAt 50 80) →
      Tiled (Run.last stockroom taken).toTables) ↔
        Run.Along OpensForward stockroom (playedStock stockroom (countsAt 50 80)) :=
  periods_tile_iff along_playedStock rfl

theorem earlier_count_overlaps :
    ¬ ∀ (db : Database) (steps : List (StockEvent × Database)), Run.Along NextStock db steps →
      db.stocktakeSessions = [] →
        ∀ taken, taken <+: steps → Tiled (Run.last db taken).toTables := by
  intro h
  have htiled := h stockroom (playedStock stockroom (countsAt 50 20)) along_playedStock rfl _
    List.prefix_rfl
  have hbackwards : ¬ ∀ s ∈ (Run.last stockroom
      (playedStock stockroom (countsAt 50 20))).stocktakeSessions,
        ∀ start ∈ s.periodStartAt, start ≤ s.cutoffAt := by
    decide +kernel
  exact hbackwards htiled.ordered

end NextgenBackend.Periods
