import NextgenBackend.Core.Errors
import NextgenBackend.Library.Run
import NextgenBackend.Utils.Time

namespace NextgenBackend.ConnectState

structure Payload where
  businessId : Uuid
  userId : Uuid
deriving DecidableEq, Repr

structure Entry where
  payload : Payload
  expiresAt : Instant
deriving DecidableEq, Repr

-- The keys behind the prefix of the connect states, and the clock that they expire by.
structure Redis where
  entries : String → Option Entry
  now : Instant

-- A command that ends in an error may have been carried out all the same.
inductive Link where
  | answered | refused | lost
deriving DecidableEq, Repr

inductive StateServiceUnavailable where
  | unreachable
deriving DecidableEq, Repr

structure MintedState where
  token : String
  expiresIn : ℕ
deriving DecidableEq, Repr

namespace Redis

def get (redis : Redis) (token : String) : Option Entry :=
  (redis.entries token).filter fun entry => redis.now < entry.expiresAt

def set (redis : Redis) (token : String) (payload : Payload) (ttl : ℕ) : Redis :=
  { redis with
    entries := Function.update redis.entries token
      (some ⟨payload, redis.now + ttl * Time.second⟩) }

def delete (redis : Redis) (token : String) : Redis :=
  { redis with entries := Function.update redis.entries token none }

-- The answer that the caller gets, and what the server has done by then.
def command {α : Type} (redis : Redis) (link : Link) (answer : α) (done : Redis) :
    Except StateServiceUnavailable α × Redis :=
  match link with
  | .answered => (.ok answer, done)
  | .refused => (.error .unreachable, redis)
  | .lost => (.error .unreachable, done)

end Redis

def mintConnectState (ttl : ℕ) (link : Link) (token : String) (businessId userId : Uuid)
    (redis : Redis) : Except StateServiceUnavailable MintedState × Redis :=
  redis.command link ⟨token, ttl⟩ (redis.set token ⟨businessId, userId⟩ ttl)

-- One command reads the state and deletes it.
def consumeConnectState (link : Link) (token : String) (businessId : Uuid) (redis : Redis) :
    Except StateServiceUnavailable Bool × Redis :=
  redis.command link ((redis.get token).any fun entry => entry.payload.businessId = businessId)
    (redis.delete token)

def startConnect (ttl : ℕ) (link : Link) (token : String) (businessId userId : Uuid)
    (redis : Redis) : Except AppError MintedState × Redis :=
  match mintConnectState ttl link token businessId userId redis with
  | (.ok minted, redis) => (.ok minted, redis)
  | (.error _, redis) => (.error ⟨"WHATSAPP_STATE_SERVICE_UNAVAILABLE",
      "Could not start the WhatsApp connect flow right now — please try again shortly.", 503, []⟩,
      redis)

-- What an exchange asks for before it calls the provider or touches the database.
def exchangeState (link : Link) (token : String) (businessId : Uuid) (redis : Redis) :
    Except AppError Unit × Redis :=
  match consumeConnectState link token businessId redis with
  | (.ok true, redis) => (.ok (), redis)
  | (.ok false, redis) => (.error ⟨"INVALID_OR_EXPIRED_STATE",
      "This connect attempt could not be verified (missing, expired, already-used, or started " ++
        "from a different account) — please restart the WhatsApp connect flow.", 401, []⟩, redis)
  | (.error _, redis) => (.error ⟨"WHATSAPP_STATE_SERVICE_UNAVAILABLE",
      "Could not verify the WhatsApp connect flow right now — please try again shortly.", 503, []⟩,
      redis)

inductive Event where
  | start (link : Link) (token : String) (businessId userId : Uuid)
      (reply : Except AppError MintedState)
  | exchange (link : Link) (token : String) (businessId : Uuid) (reply : Except AppError Unit)
  | environment

-- The clock goes on, and keys may be lost, but none appears.
structure Elapses (redis redis' : Redis) : Prop where
  now : redis.now ≤ redis'.now
  entries : ∀ token entry, redis'.entries token = some entry → redis.entries token = some entry

def Next (ttl : ℕ) (redis : Redis) (event : Event) (redis' : Redis) : Prop :=
  match event with
  | .start link token businessId userId reply =>
      startConnect ttl link token businessId userId redis = (reply, redis')
  | .exchange link token businessId reply =>
      exchangeState link token businessId redis = (reply, redis')
  | .environment => Elapses redis redis'

-- What a run has minted for a token, and no exchange has taken since.
def held (ttl : ℕ) (token : String) (before : Option Entry) : Event × Redis → Option Entry
  | (.start link token' businessId userId _, redis) =>
      if token' = token ∧ link ≠ .refused then
        some ⟨⟨businessId, userId⟩, redis.now + ttl * Time.second⟩
      else before
  | (.exchange link token' _ _, _) => if token' = token ∧ link ≠ .refused then none else before
  | (.environment, _) => before

def outstanding (ttl : ℕ) (token : String) (steps : List (Event × Redis)) : Option Entry :=
  steps.foldl (held ttl token) none

def Event.mints (token : String) : Event → Bool
  | .start link token' _ _ _ => token' = token && link ≠ .refused
  | _ => false

def Event.accepts (token : String) : Event → Bool
  | .exchange _ token' _ (.ok ()) => token' = token
  | _ => false

section Runs

variable {ttl : ℕ} {link : Link} {token token' : String} {businessId userId : Uuid}
  {redis redis' : Redis} {event : Event} {steps : List (Event × Redis)} {before : Option Entry}

theorem startConnect_snd : (startConnect ttl link token businessId userId redis).2 =
    if link = .refused then redis else redis.set token ⟨businessId, userId⟩ ttl := by
  cases link <;> rfl

theorem exchangeState_snd : (exchangeState link token businessId redis).2 =
    if link = .refused then redis else redis.delete token := by
  cases link with
  | answered =>
      unfold exchangeState consumeConnectState Redis.command
      cases (redis.get token).any fun entry => entry.payload.businessId = businessId <;> rfl
  | refused => rfl
  | lost => rfl

theorem exchange_accepted
    (h : Next ttl redis (.exchange link token businessId (.ok ())) redis') :
    link = .answered ∧ ∃ entry, redis.entries token = some entry ∧
      entry.payload.businessId = businessId ∧ redis.now < entry.expiresAt := by
  have hreply : (exchangeState link token businessId redis).1 = .ok () := congrArg Prod.fst h
  cases link with
  | answered =>
      refine ⟨rfl, ?_⟩
      cases hany : (redis.get token).any fun entry => entry.payload.businessId = businessId with
      | false => simp [exchangeState, consumeConnectState, Redis.command, hany] at hreply
      | true =>
          obtain ⟨entry, hget, hbusiness⟩ := (Option.any_eq_true _ _).mp hany
          obtain ⟨hstored, hlive⟩ := Option.filter_eq_some_iff.mp hget
          exact ⟨entry, hstored, of_decide_eq_true hbusiness, of_decide_eq_true hlive⟩
  | refused => cases hreply
  | lost => cases hreply

-- Every key in the store is one that the run minted and that is still outstanding.
theorem stored_next (h : Next ttl redis event redis')
    (hbefore : ∀ entry, redis.entries token = some entry → before = some entry) :
    ∀ entry, redis'.entries token = some entry →
      held ttl token before (event, redis') = some entry := by
  intro entry hentry
  cases event with
  | start link token' businessId userId reply =>
      obtain rfl : _ = redis' := startConnect_snd.symm.trans (congrArg Prod.snd h)
      by_cases hlink : link = .refused
      · simp only [hlink, if_true] at hentry
        simp [held, hlink, hbefore entry hentry]
      · simp only [hlink, if_false, Redis.set] at hentry ⊢
        by_cases htoken : token' = token
        · simpa [held, hlink, htoken] using hentry
        · rw [Function.update_of_ne (Ne.symm htoken)] at hentry
          simp [held, htoken, hbefore entry hentry]
  | exchange link token' businessId reply =>
      obtain rfl : _ = redis' := exchangeState_snd.symm.trans (congrArg Prod.snd h)
      by_cases hlink : link = .refused
      · simp only [hlink, if_true] at hentry
        simp [held, hlink, hbefore entry hentry]
      · simp only [hlink, if_false, Redis.delete] at hentry
        by_cases htoken : token' = token
        · simp [htoken] at hentry
        · rw [Function.update_of_ne (Ne.symm htoken)] at hentry
          simp [held, htoken, hbefore entry hentry]
  | environment => exact hbefore entry (h.entries token entry hentry)

-- A state that is taken was outstanding, and a mint leaves one.
theorem counted_next (h : Next ttl redis event redis')
    (hbefore : ∀ entry, redis.entries token = some entry → before = some entry) :
    (event.accepts token).toNat + (held ttl token before (event, redis')).toList.length ≤
      before.toList.length + (event.mints token).toNat := by
  cases event with
  | start link token' businessId userId reply =>
      by_cases hmints : token' = token ∧ link ≠ .refused
      · simp [Event.accepts, Event.mints, held, hmints]
      · simp [Event.accepts, held, hmints]
  | exchange link token' businessId reply =>
      by_cases htoken : token' = token
      · subst htoken
        cases reply with
        | ok =>
            obtain ⟨rfl, entry, hentry, -⟩ := exchange_accepted h
            simp [Event.accepts, Event.mints, held, hbefore entry hentry]
        | error e => by_cases hlink : link = .refused <;> simp [Event.accepts, held, hlink]
      · cases reply <;> simp [Event.accepts, held, htoken]
  | environment => simp [Event.accepts, held]

structure Accounted (ttl : ℕ) (redis : Redis) (steps : List (Event × Redis)) : Prop where
  stored : ∀ token entry, (Run.last redis steps).entries token = some entry →
    outstanding ttl token steps = some entry
  counted : ∀ token, steps.countP (·.1.accepts token) +
    (outstanding ttl token steps).toList.length ≤ steps.countP (·.1.mints token)

theorem Accounted.next (h : Accounted ttl redis steps)
    (hnext : Next ttl (Run.last redis steps) event redis') :
    Accounted ttl redis (steps ++ [(event, redis')]) where
  stored token entry hentry := by
    rw [outstanding, List.foldl_append]
    rw [Run.last_append] at hentry
    exact stored_next hnext (h.stored token) entry hentry
  counted token := by
    have hstep := counted_next hnext (h.stored token)
    have hbefore := h.counted token
    have hone (b : Bool) : (if b = true then 1 else 0) = b.toNat := by cases b <;> rfl
    simp only [outstanding, List.foldl_append, List.foldl_cons, List.foldl_nil,
      List.countP_append, List.countP_singleton, hone] at hstep hbefore ⊢
    omega

theorem accounted_run (hempty : ∀ token, redis.entries token = none)
    (hrun : Run.Along (Next ttl) redis steps) : Accounted ttl redis steps := by
  refine hrun.history (I := Accounted ttl redis) ⟨fun token entry hentry => ?_, fun token => ?_⟩
    fun taken event redis' h hnext => h.next hnext
  · rw [Run.last, hempty token] at hentry
    cases hentry
  · simp [outstanding]

end Runs

theorem exchanges_take_own_state {ttl : ℕ} {redis : Redis} {steps : List (Event × Redis)}
    (hempty : ∀ token, redis.entries token = none) (hrun : Run.Along (Next ttl) redis steps) :
    (∀ taken link token businessId redis',
      taken ++ [(Event.exchange link token businessId (.ok ()), redis')] <+: steps →
        ∃ entry, outstanding ttl token taken = some entry ∧
          entry.payload.businessId = businessId ∧
            (Run.last redis taken).now < entry.expiresAt) ∧
      ∀ token, steps.countP (·.1.accepts token) ≤ steps.countP (·.1.mints token) := by
  constructor
  · intro taken link token businessId redis' hpre
    obtain ⟨htaken, hexchange⟩ := Run.along_snoc.mp (hrun.of_prefix hpre)
    obtain ⟨-, entry, hentry, hbusiness, hlive⟩ := exchange_accepted hexchange
    exact ⟨entry, (accounted_run hempty htaken).stored token entry hentry, hbusiness, hlive⟩
  · intro token
    exact (Nat.le_add_right _ _).trans ((accounted_run hempty hrun).counted token)

def fresh : Redis := ⟨fun _ => none, 0⟩

def connected : List (Event × Redis) :=
  [(.start .answered "state-1" 1 2 (.ok ⟨"state-1", 600⟩), fresh.set "state-1" ⟨1, 2⟩ 600),
    (.exchange .answered "state-1" 1 (.ok ()), (fresh.set "state-1" ⟨1, 2⟩ 600).delete "state-1")]

theorem connected_takes_own_state :
    (∃ entry, outstanding 600 "state-1" (connected.take 1) = some entry ∧
      entry.payload.businessId = 1 ∧
        (Run.last fresh (connected.take 1)).now < entry.expiresAt) ∧
      connected.countP (·.1.accepts "state-1") ≤ connected.countP (·.1.mints "state-1") := by
  have hstates := @exchanges_take_own_state 600 fresh connected (fun _ => rfl) ⟨rfl, rfl, trivial⟩
  exact ⟨hstates.1 (connected.take 1) .answered "state-1" 1 _ List.prefix_rfl, hstates.2 "state-1"⟩

end NextgenBackend.ConnectState
