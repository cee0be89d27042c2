import ProvenBlocks.Proofs.Capacity

/-!
Publishers and readers that use a bus at the same time. Each of their steps is one of ten, and none
of these loses track of the subscriptions. Steps that nothing disturbs make up the publication and
the reception of a bus that is used by one at a time.
-/

namespace ProvenBlocks

/-! ### Changing one subscription -/

/-- A change that leaves the name of a subscription alone. -/
def Subscription.Keeps (changed : Subscription → Subscription) : Prop :=
  ∀ subscription, (changed subscription).id = subscription.id

namespace Bus

variable (bus : Bus) {changed : Subscription → Subscription} {id : Nat}

theorem find_change (keeps : Subscription.Keeps changed) (id other : Nat) :
    (bus.change id changed).find? other =
      (bus.find? other).map fun subscription =>
        if other = id then changed subscription else subscription := by
  have same : ((fun subscription : Subscription => subscription.id == other) ∘
      fun subscription => if subscription.id = id then changed subscription else subscription) =
        fun subscription : Subscription => subscription.id == other := by
    funext subscription
    simp only [Function.comp]
    split
    · rw [keeps]
    · rfl
  simp only [find?, change, List.find?_map, same]
  apply Option.map_congr
  intro subscription found
  have named : subscription.id = other := bus.find_named found
  rw [named]

theorem find_changed (keeps : Subscription.Keeps changed) {subscription : Subscription}
    (found : bus.find? id = some subscription) :
    (bus.change id changed).find? id = some (changed subscription) := by
  rw [find_change bus keeps, found, Option.map_some, if_pos rfl]

/-- A subscription of the changed bus is the changed one or was there before. -/
theorem find_change_cases (keeps : Subscription.Keeps changed) {other : Nat}
    {subscription : Subscription}
    (found : (bus.change id changed).find? other = some subscription) :
    other ≠ id ∧ bus.find? other = some subscription ∨
      other = id ∧ ∃ before, bus.find? id = some before ∧ subscription = changed before := by
  rw [find_change bus keeps] at found
  obtain ⟨before, present, rfl⟩ := Option.map_eq_some_iff.mp found
  by_cases same : other = id
  · subst same
    exact .inr ⟨rfl, before, present, if_pos rfl⟩
  · refine .inl ⟨same, ?_⟩
    rw [if_neg same]
    exact present

/-- A subscription of a bus with one more is the new one or was there before. -/
theorem find_subscribe_cases {subscription : Subscription}
    (found : bus.subscribe.2.find? id = some subscription) :
    bus.find? id = some subscription ∨ id = bus.nextId ∧ subscription = ⟨id, [], 0⟩ := by
  rw [find_subscribe] at found
  rcases earlier : bus.find? id with _ | other
  · rw [earlier, Option.none_or] at found
    split at found
    · rename_i same
      cases found
      exact .inr ⟨same.symm, by rw [same]⟩
    · cases found
  · rw [earlier, Option.some_or] at found
    exact .inl found

theorem find_of_unsubscribed {other : Nat} {subscription : Subscription}
    (found : (bus.unsubscribe id).find? other = some subscription) :
    bus.find? other = some subscription := by
  by_cases same : other = id
  · rw [same, find_unsubscribed] at found
    cases found
  · rwa [find_unsubscribe _ same] at found

theorem ids_change (keeps : Subscription.Keeps changed) (id : Nat) :
    (bus.change id changed).ids = bus.ids := by
  simp only [ids, change, List.map_map]
  apply List.map_congr_left
  intro subscription _
  simp only [Function.comp]
  split
  · exact keeps subscription
  · rfl

theorem ids_subscribe : bus.subscribe.2.ids = bus.ids ++ [bus.nextId] := by
  simp [subscribe, ids]

theorem ids_unsubscribe (id : Nat) :
    (bus.unsubscribe id).ids = bus.ids.filter fun other => other != id := by
  simp only [unsubscribe, ids, List.filter_map]
  rfl

theorem mem_ids_iff : id ∈ bus.ids ↔ ∃ subscription, bus.find? id = some subscription := by
  rw [← Option.isSome_iff_exists, find?, List.find?_isSome, ids, List.mem_map]
  simp only [beq_iff_eq]

theorem find_of_mem (distinct : bus.ids.Nodup) {subscription : Subscription}
    (member : subscription ∈ bus.subscriptions) :
    bus.find? subscription.id = some subscription := by
  obtain ⟨other, found⟩ := bus.mem_ids_iff.mp (List.mem_map_of_mem member)
  have same := List.inj_on_of_nodup_map distinct (List.mem_of_find?_eq_some found) member
    (bus.find_named found)
  rw [found, same]

theorem change_others {others : List Subscription} (different : ∀ other ∈ others, other.id ≠ id) :
    (others.map fun other => if other.id = id then changed other else other) = others := by
  apply (List.map_congr_left ?_).trans (List.map_id _)
  exact fun other member => if_neg (different other member)

theorem change_at (distinct : bus.ids.Nodup) {before later : List Subscription}
    {subscription : Subscription}
    (listed : bus.subscriptions = before ++ subscription :: later)
    (changed : Subscription → Subscription) :
    bus.change subscription.id changed =
      { bus with subscriptions := before ++ changed subscription :: later } := by
  rw [ids, listed, List.map_append, List.map_cons, List.nodup_append, List.nodup_cons] at distinct
  obtain ⟨-, ⟨unlisted, -⟩, apart⟩ := distinct
  have earlier : ∀ other ∈ before, other.id ≠ subscription.id := fun other member =>
    apart _ (List.mem_map_of_mem member) _ (List.mem_cons_self ..)
  have rest : ∀ other ∈ later, other.id ≠ subscription.id := fun other member same =>
    unlisted (same ▸ List.mem_map_of_mem member)
  rw [change, listed, List.map_append, List.map_cons, change_others earlier, change_others rest,
    if_pos rfl]

end Bus

theorem Subscription.queue_keeps (signature : Signature) :
    Keeps fun subscription => subscription.queue signature := fun _ => rfl

theorem Subscription.count_keeps : Keeps count := fun _ => rfl

theorem Subscription.take_keeps : Keeps take := fun _ => rfl

theorem Subscription.settle_keeps : Keeps settle := fun _ => rfl

/-- A publisher that has queued and counted the event for a subscription. -/
def Publishing.served (publishing : Publishing) (subscription : Subscription)
    (later : List Nat) : Publishing :=
  { publishing with
    reached := publishing.reached ++ [subscription.id]
    remaining := later
    greatest := max publishing.greatest (subscription.backlog + 1) }

namespace Contention

/-! ### What a step does -/

/-- What a step does that can be made. -/
inductive Occurs (state : Contention) : Contention → Prop
  | subscribed (free : state.publishing = none) :
      Occurs state { state with bus := state.bus.subscribe.2 }
  | unsubscribed (id : Nat) (free : state.publishing = none) (idle : id ∉ state.receiving) :
      Occurs state { state with bus := state.bus.unsubscribe id }
  | closed (free : state.publishing = none) : Occurs state { state with bus := state.bus.close }
  | announced (signature : Signature) (free : state.publishing = none)
      (isOpen : state.bus.isOpen = true) :
      Occurs state (state.announce signature)
  | queued (publishing : Publishing) (id : Nat) (later : List Nat)
      (held : state.publishing = some publishing) (counted : publishing.uncounted = none)
      (next : publishing.remaining = id :: later) :
      Occurs state (state.queueFor publishing id later)
  | counted (publishing : Publishing) (id : Nat) (backlog : UInt64)
      (held : state.publishing = some publishing) (owed : publishing.uncounted = some id)
      (fits : checkedSucc (state.bus.backlog id) = .ok backlog) :
      Occurs state { state with
        bus := state.bus.change id .count
        publishing := some { publishing with
          uncounted := none
          greatest := max publishing.greatest backlog } }
  | stopped (publishing : Publishing) (id : Nat) (held : state.publishing = some publishing)
      (owed : publishing.uncounted = some id) :
      Occurs state ({ state with bus := state.bus.change id .count }.finish publishing
        (.error .addition))
  | answered (publishing : Publishing) (held : state.publishing = some publishing)
      (counted : publishing.uncounted = none) (ended : publishing.remaining = []) :
      Occurs state (state.finish publishing (state.bus.answer publishing.greatest))
  | taken (id : Nat) (subscription : Subscription) (first : Signature) (later : List Signature)
      (found : state.bus.find? id = some subscription)
      (waiting : subscription.waiting = first :: later) (idle : id ∉ state.receiving) :
      Occurs state (state.takeBy id first)
  | settled (id : Nat) (received : id ∈ state.receiving) : Occurs state (state.settleBy id)

variable {state after : Contention}

theorem proceed_cases {publishing : Publishing} (held : state.publishing = some publishing) :
    Occurs state (state.proceed publishing) := by
  rcases owed : publishing.uncounted with _ | id
  · rcases next : publishing.remaining with _ | ⟨id, later⟩
    · simp only [proceed, owed, next]
      exact .answered publishing held owed next
    · simp only [proceed, owed, next]
      exact .queued publishing id later held owed next
  · simp only [proceed, owed, countFor]
    rcases limit : checkedSucc (state.bus.backlog id) with overflow | backlog
    · have addition : overflow = .addition := by
        simp only [checkedSucc, checkedAdd] at limit
        split at limit <;> cases limit
        rfl
      subst addition
      exact .stopped publishing id held owed
    · exact .counted publishing id backlog held owed limit

/-- A step that cannot be made leaves everything as it was. -/
theorem step_cases (state : Contention) (move : ContentionStep) :
    state.step move = state ∨ Occurs state (state.step move) := by
  cases move with
  | subscribe =>
      simp only [step]
      split
      · rename_i allowed
        simp only [Bool.and_eq_true, Option.isNone_iff_eq_none] at allowed
        exact .inr (.subscribed allowed.1)
      · exact .inl rfl
  | unsubscribe id =>
      simp only [step]
      split
      · rename_i allowed
        simp only [Bool.and_eq_true, Option.isNone_iff_eq_none, Bool.not_eq_true',
          List.contains_eq_mem, decide_eq_false_iff_not] at allowed
        exact .inr (.unsubscribed id allowed.1 allowed.2)
      · exact .inl rfl
  | close =>
      simp only [step]
      split
      · rename_i allowed
        exact .inr (.closed (Option.isNone_iff_eq_none.mp allowed))
      · exact .inl rfl
  | publish signature =>
      simp only [step]
      split
      · rename_i allowed
        simp only [Bool.and_eq_true, Option.isNone_iff_eq_none] at allowed
        exact .inr (.announced signature allowed.1 allowed.2)
      · exact .inl rfl
  | proceed =>
      simp only [step]
      split
      · exact .inl rfl
      · exact .inr (proceed_cases ‹_›)
  | take id =>
      simp only [step]
      split
      · exact .inl rfl
      · rename_i first queued
        obtain ⟨subscription, found, head⟩ := Option.bind_eq_some_iff.mp queued
        obtain ⟨later, waiting⟩ := List.head?_eq_some_iff.mp head
        split
        · exact .inl rfl
        · rename_i idle
          exact .inr (.taken id subscription first later found waiting (by simpa using idle))
  | settle id =>
      simp only [step]
      split
      · rename_i received
        exact .inr (.settled id (by simpa using received))
      · exact .inl rfl

/-! ### Which subscriptions there are -/

/-- Every event with the subscriptions that it has reached so far. -/
def reaches (state : Contention) : List (Signature × List Nat) :=
  state.publications.map (fun publication => (publication.signature, publication.reached)) ++
    state.publishing.toList.map fun publishing => (publishing.signature, publishing.reached)

theorem reaches_announce (signature : Signature) (free : state.publishing = none) :
    (state.announce signature).reaches = state.reaches ++ [(signature, [])] := by
  simp [reaches, announce, free]

/-- The event of a publisher is the last one, before and after it reaches a subscription. -/
theorem reaches_queue {publishing : Publishing} (held : state.publishing = some publishing)
    (id : Nat) (later : List Nat) :
    ∃ earlier, state.reaches = earlier ++ [(publishing.signature, publishing.reached)] ∧
      (state.queueFor publishing id later).reaches =
        earlier ++ [(publishing.signature, publishing.reached ++ [id])] := by
  refine ⟨_, ?_, rfl⟩
  rw [reaches, held]
  rfl

theorem reaches_finish {publishing : Publishing} (held : state.publishing = some publishing)
    (answer : Except Overflow Delivery) :
    (state.finish publishing answer).reaches = state.reaches := by
  simp [reaches, finish, held]

/-- Publishers and readers know only subscriptions of the bus. -/
structure IsRegistered (state : Contention) : Prop where
  distinct : state.bus.ids.Nodup
  known : ∀ id ∈ state.bus.ids, id < state.bus.nextId
  receiving : ∀ id ∈ state.receiving, id ∈ state.bus.ids
  held : ∀ publishing, state.publishing = some publishing →
    publishing.registered = state.bus.ids
  last : ∀ publishing id, state.publishing = some publishing → publishing.uncounted = some id →
    ∃ before, publishing.reached = before ++ [id]
  reached : ∀ reach ∈ state.reaches, ∀ id ∈ reach.2, id < state.bus.nextId
  taken : ∀ entry ∈ state.taken, entry.1 < state.bus.nextId

theorem IsRegistered.fresh (capacity : UInt64) : (fresh capacity).IsRegistered := by
  constructor <;> simp [Contention.fresh, Bus.empty, Bus.ids, reaches]

/-- A change of one subscription under way changes no names. -/
theorem IsRegistered.change {changed : Subscription → Subscription}
    (registered : state.IsRegistered) (keeps : Subscription.Keeps changed) (id : Nat) :
    IsRegistered { state with bus := state.bus.change id changed } := by
  have ids := state.bus.ids_change keeps id
  refine ⟨?_, ?_, ?_, ?_, registered.last, registered.reached, registered.taken⟩
  · rw [ids]
    exact registered.distinct
  · rw [ids]
    exact registered.known
  · rw [ids]
    exact registered.receiving
  · rw [ids]
    exact registered.held

theorem IsRegistered.finish {publishing : Publishing} (registered : state.IsRegistered)
    (held : state.publishing = some publishing) (answer : Except Overflow Delivery) :
    (state.finish publishing answer).IsRegistered where
  distinct := registered.distinct
  known := registered.known
  receiving := registered.receiving
  held := fun _ other => by cases other
  last := fun _ _ other => by cases other
  reached := by
    rw [reaches_finish held]
    exact registered.reached
  taken := registered.taken

/-- The subscription that is next has not been reached. -/
theorem IsRegistered.next {publishing : Publishing} {id : Nat} {later : List Nat}
    (registered : state.IsRegistered) (held : state.publishing = some publishing)
    (next : publishing.remaining = id :: later) :
    id ∈ state.bus.ids ∧ id ∉ publishing.reached := by
  have listed := registered.held publishing held
  have distinct := registered.distinct
  rw [← listed, Publishing.registered, next] at distinct ⊢
  refine ⟨by simp, fun reached => ?_⟩
  exact (List.nodup_append.mp distinct).2.2 id reached id (by simp) rfl

theorem Occurs.registered (occurs : Occurs state after) (registered : state.IsRegistered) :
    after.IsRegistered := by
  cases occurs with
  | subscribed free =>
      have ids := state.bus.ids_subscribe
      have grows : state.bus.nextId < state.bus.subscribe.2.nextId := Nat.lt_succ_self _
      refine ⟨?_, ?_, ?_, ?_, registered.last, ?_, ?_⟩
      · rw [ids, List.nodup_append]
        refine ⟨registered.distinct, List.nodup_singleton _, ?_⟩
        intro id member next same equal
        rw [List.mem_singleton.mp same] at equal
        exact Nat.ne_of_lt (registered.known id member) equal
      · intro id member
        rw [ids, List.mem_append, List.mem_singleton] at member
        rcases member with earlier | rfl
        · exact Nat.lt_trans (registered.known id earlier) grows
        · exact grows
      · intro id member
        rw [ids]
        exact List.mem_append_left _ (registered.receiving id member)
      · intro publishing held
        rw [free] at held
        cases held
      · exact fun reach member id reached =>
          Nat.lt_trans (registered.reached reach member id reached) grows
      · exact fun entry member => Nat.lt_trans (registered.taken entry member) grows
  | unsubscribed id free idle =>
      have ids := state.bus.ids_unsubscribe id
      refine ⟨?_, ?_, ?_, ?_, registered.last, registered.reached, registered.taken⟩
      · rw [ids]
        exact registered.distinct.filter _
      · intro other member
        rw [ids] at member
        exact registered.known other (List.mem_filter.mp member).1
      · intro reader member
        have different : reader ≠ id := fun same => idle (same ▸ member)
        rw [ids]
        exact List.mem_filter.mpr ⟨registered.receiving reader member, by simpa using different⟩
      · intro publishing held
        rw [free] at held
        cases held
  | closed free =>
      exact ⟨registered.distinct, registered.known, registered.receiving, registered.held,
        registered.last, registered.reached, registered.taken⟩
  | announced signature free isOpen =>
      refine ⟨registered.distinct, registered.known, registered.receiving, ?_, ?_, ?_,
        registered.taken⟩
      · rintro publishing ⟨⟩
        rfl
      · rintro publishing id ⟨⟩ owed
        cases owed
      · intro reach member id reached
        rw [reaches_announce signature free, List.mem_append, List.mem_singleton] at member
        rcases member with earlier | rfl
        · exact registered.reached reach earlier id reached
        · cases reached
  | queued publishing id later held counted next =>
      have changed := registered.change (Subscription.queue_keeps publishing.signature) id
      obtain ⟨earlier, before, after⟩ := reaches_queue held id later
      have present := (registered.next held next).1
      refine ⟨changed.distinct, changed.known, changed.receiving, ?_, ?_, ?_, changed.taken⟩
      · rintro _ ⟨⟩
        have listed := changed.held publishing held
        rw [Publishing.registered, next] at listed
        rw [Publishing.registered, List.append_assoc]
        exact listed
      · rintro _ _ ⟨⟩ ⟨⟩
        exact ⟨publishing.reached, rfl⟩
      · intro reach member other reached
        have known := registered.reached
        rw [before] at known
        rw [after, List.mem_append, List.mem_singleton] at member
        rcases member with ahead | rfl
        · exact known reach (List.mem_append_left _ ahead) other reached
        · rcases List.mem_append.mp reached with ahead | same
          · exact known _ (List.mem_append_right _ (List.mem_singleton_self _)) other ahead
          · rw [List.mem_singleton.mp same]
            exact registered.known id present
  | counted publishing id backlog held owed fits =>
      have changed := registered.change Subscription.count_keeps id
      refine ⟨changed.distinct, changed.known, changed.receiving, ?_, ?_, ?_, changed.taken⟩
      · rintro _ ⟨⟩
        exact changed.held publishing held
      · rintro _ _ ⟨⟩ owed
        cases owed
      · have same := changed.reached
        simp only [reaches, held] at same
        exact same
  | stopped publishing id held owed =>
      exact (registered.change Subscription.count_keeps id).finish held _
  | answered publishing held counted ended => exact registered.finish held _
  | taken id subscription first later found waiting idle =>
      have changed := registered.change Subscription.take_keeps id
      have present := state.bus.mem_ids_iff.mpr ⟨subscription, found⟩
      refine ⟨changed.distinct, changed.known, ?_, changed.held, changed.last, changed.reached, ?_⟩
      · intro reader member
        rcases List.mem_append.mp member with earlier | now
        · exact changed.receiving reader earlier
        · rw [List.mem_singleton.mp now]
          rwa [← state.bus.ids_change Subscription.take_keeps id] at present
      · intro entry member
        rcases List.mem_append.mp member with earlier | now
        · exact changed.taken entry earlier
        · rw [List.mem_singleton.mp now]
          exact registered.known id present
  | settled id received =>
      have changed := registered.change Subscription.settle_keeps id
      exact ⟨changed.distinct, changed.known,
        fun reader member => changed.receiving reader (List.mem_filter.mp member).1, changed.held,
        changed.last, changed.reached, changed.taken⟩

/-! ### Without contention -/

/-- The steps for one subscription queue the event and count it. -/
theorem proceed_twice {publishing : Publishing} {before later : List Subscription}
    {subscription : Subscription} (distinct : state.bus.ids.Nodup)
    (listed : state.bus.subscriptions = before ++ subscription :: later)
    (room : checkedSucc subscription.backlog = .ok (subscription.backlog + 1))
    (held : state.publishing = some publishing) (counted : publishing.uncounted = none)
    (next : publishing.remaining = (subscription :: later).map Subscription.id) :
    (state.step .proceed).step .proceed =
      { state with
        bus := { state.bus with
          subscriptions := before ++ subscription.accept publishing.signature :: later }
        publishing := some (publishing.served subscription (later.map Subscription.id)) } := by
  have queued : state.step .proceed =
      state.queueFor publishing subscription.id (later.map Subscription.id) := by
    simp only [step, held, proceed, counted, next, List.map_cons]
  have keeps := Subscription.queue_keeps publishing.signature
  have member : subscription ∈ state.bus.subscriptions := by rw [listed]; simp
  have present := state.bus.find_changed keeps (state.bus.find_of_mem distinct member)
  have apart : (state.bus.change subscription.id
      fun other => other.queue publishing.signature).ids.Nodup := by
    rw [state.bus.ids_change keeps]
    exact distinct
  have changed := state.bus.change_at distinct listed fun other => other.queue publishing.signature
  have recounted := Bus.change_at _ apart (congrArg Bus.subscriptions changed) .count
  have backlog : (state.queueFor publishing subscription.id
      (later.map Subscription.id)).bus.backlog subscription.id = subscription.backlog := by
    simp only [queueFor, Bus.backlog, present]
    rfl
  have proceeds : (state.queueFor publishing subscription.id (later.map Subscription.id)).step
      .proceed = (state.queueFor publishing subscription.id
        (later.map Subscription.id)).countFor { publishing with
          reached := publishing.reached ++ [subscription.id]
          uncounted := some subscription.id
          remaining := later.map Subscription.id } subscription.id := rfl
  rw [queued, proceeds, countFor, backlog, room]
  simp only [queueFor, Publishing.served, counted]
  exact congrArg (fun bus : Bus => ({ state with bus := bus, publishing := _ } : Contention))
    recounted

/-- A publisher that nothing disturbs serves the remaining subscriptions one after the other. -/
theorem run_fan_out (state : Contention) (publishing : Publishing)
    (before later : List Subscription) (distinct : state.bus.ids.Nodup)
    (listed : state.bus.subscriptions = before ++ later)
    (room : ∀ subscription ∈ later,
      checkedSucc subscription.backlog = .ok (subscription.backlog + 1))
    (held : state.publishing = some publishing) (counted : publishing.uncounted = none)
    (next : publishing.remaining = later.map Subscription.id) :
    state.run (List.replicate (2 * later.length) .proceed) =
      { state with
        bus := { state.bus with
          subscriptions := before ++
            later.map fun subscription => subscription.accept publishing.signature }
        publishing := some { publishing with
          reached := publishing.reached ++ later.map Subscription.id
          remaining := []
          greatest := (later.map fun subscription =>
            subscription.accept publishing.signature).foldl
              (fun greatest subscription => max greatest subscription.backlog)
              publishing.greatest } } := by
  induction later generalizing state publishing before with
  | nil =>
      obtain ⟨bus, _, receiving, taken, publications⟩ := state
      obtain ⟨signature, reached, uncounted, remaining, greatest⟩ := publishing
      cases held
      cases next
      simp only [List.append_nil] at listed
      simp [run, ← listed]
  | cons subscription later inductive_hypothesis =>
      have stepped :=
        proceed_twice distinct listed (room _ (List.mem_cons_self ..)) held counted next
      -- One step queues the event of the first one, the next step counts it.
      have twice : 2 * (subscription :: later).length = 2 * later.length + 1 + 1 := by
        rw [List.length_cons]
        omega
      rw [twice, List.replicate_succ, List.replicate_succ, run, List.foldl_cons, List.foldl_cons,
        stepped]
      have accepted : before ++ subscription.accept publishing.signature :: later =
          before ++ [subscription.accept publishing.signature] ++ later := by simp
      refine (inductive_hypothesis _ (publishing.served subscription (later.map Subscription.id)) _
        ?_ accepted ?_ rfl counted rfl).trans ?_
      · rw [Bus.ids, listed] at distinct
        simpa [Bus.ids, Subscription.accept] using distinct
      · exact fun other member => room other (List.mem_cons_of_mem _ member)
      · simp [Publishing.served, Subscription.accept]

/-- A publication that nothing disturbs is the publication of a bus that is used by one at a
time. -/
theorem publish_undisturbed (registered : state.IsRegistered) (free : state.publishing = none)
    (isOpen : state.bus.isOpen = true) (room : Traffic.HasRoom state.bus) (signature : Signature) :
    state.run (.publish signature :: List.replicate (2 * state.bus.ids.length + 1) .proceed) =
      { state with
        bus := (state.bus.publish signature).2
        publications := state.publications ++
          [⟨signature, state.bus.ids, state.bus.ids, (state.bus.publish signature).1⟩] } := by
  have announced : state.step (.publish signature) = state.announce signature := by
    simp [step, free, isOpen]
  have fits : ∀ subscription ∈ state.bus.subscriptions,
      checkedSucc subscription.backlog = .ok (subscription.backlog + 1) :=
    fun subscription member => room _ _ (state.bus.find_of_mem registered.distinct member)
  have reached := (state.announce signature).run_fan_out ⟨signature, [], none, state.bus.ids, 0⟩ []
    state.bus.subscriptions registered.distinct rfl fits rfl rfl rfl
  have length : state.bus.ids.length = state.bus.subscriptions.length := by simp [Bus.ids]
  rw [run, List.foldl_cons, announced, List.replicate_succ', List.foldl_append]
  rw [run] at reached
  rw [length, reached, Bus.published_bus, Bus.publish_answered, free]
  simp only [List.foldl_cons, List.foldl_nil, step, proceed, finish, Publishing.registered,
    List.nil_append, List.append_nil]
  rfl

theorem step_take {id : Nat} {subscription : Subscription} {first : Signature}
    {later : List Signature} (found : state.bus.find? id = some subscription)
    (waiting : subscription.waiting = first :: later) (idle : id ∉ state.receiving) :
    state.step (.take id) = state.takeBy id first := by
  simp [step, found, waiting, idle]

theorem receiving_take (id : Nat) (first : Signature) : id ∈ (state.takeBy id first).receiving :=
  List.mem_append_right _ (List.mem_singleton_self _)

theorem step_settle {id : Nat} (receiving : id ∈ state.receiving) :
    state.step (.settle id) = state.settleBy id := by
  simp [step, receiving]

/-- A reception that nothing disturbs is the reception from a bus that is used by one at a time. -/
theorem receive_undisturbed (registered : state.IsRegistered) {id : Nat}
    {subscription : Subscription} {first : Signature} {later : List Signature}
    (found : state.bus.find? id = some subscription)
    (waiting : subscription.waiting = first :: later) (idle : id ∉ state.receiving) :
    (state.bus.receive id).1 = .event first ∧
      state.run [.take id, .settle id] =
        { state with
          bus := (state.bus.receive id).2
          taken := state.taken ++ [(id, first)] } := by
  have bus : (state.bus.change id .take).change id .settle = state.bus.taking id later := by
    simp only [Bus.change, Bus.taking, List.map_map]
    congr 1
    apply List.map_congr_left
    intro other member
    by_cases named : other.id = id
    · have present := state.bus.find_of_mem registered.distinct member
      rw [named, found, Option.some.injEq] at present
      subst present
      simp [Bus.takeFirst, Subscription.take, Subscription.settle, named, waiting]
    · simp [Bus.takeFirst, named]
  have readers : (state.receiving ++ [id]).filter (fun reader => reader != id) =
      state.receiving := by
    rw [List.filter_append, List.filter_eq_self.mpr]
    · simp
    · intro reader member
      have different : reader ≠ id := fun same => idle (same ▸ member)
      simpa using different
  rw [state.bus.receive_first found waiting, run, List.foldl_cons, List.foldl_cons, List.foldl_nil,
    step_take found waiting idle, step_settle (state.receiving_take id first)]
  refine ⟨rfl, ?_⟩
  simp only [settleBy, takeBy, bus, readers]

end Contention
end ProvenBlocks
