import KnxGateway.Proofs.Gateway.RegistrySteps

set_option autoImplicit false

/-! # The registry of connections

A connection is in the registry from the moment it is accepted until its reader leaves or the
accept loop empties the registry, whichever comes first; only then is it closed. Readers and accept
loop do this at the same time, and a connection may be closed by both. Whatever the order, nothing
that is still registered is ever closed, a reader removes no connection but its own, and when the
accept loop returns nothing is left open. -/

namespace KnxGateway

namespace Gateway

variable {β : Type} {g g' : Gateway β} {c x : ConnectionId} {link link' : Link}

/-! ## The invariant -/

/-- How a gateway keeps the connections that it accepted. -/
structure Custody (config : GatewayConfig) (past : List GatewayEvent) (g : Gateway β) : Prop where
  sameConfig : g.config = config
  registrations : GatewayEvent.registrations past =
    (List.range g.links.toList.length).map fun c => (c, c)
  numbered : ∀ c link, g.links.get? c = some link → link.id = c
  registered : ∀ id c, (id, c) ∈ g.registry.entries → ∃ link, g.links.get? c = some link ∧
    link.id = id ∧ link.isOpen = true ∧ link.reader ≠ .closing ∧ link.reader ≠ .finished
  /-- Whatever is open is registered, or about to be closed. -/
  kept : ∀ c link, g.links.get? c = some link → link.isOpen = true →
    (link.id, c) ∈ g.registry.entries ∨ link.reader = .closing ∨
      ∃ rest, g.acceptLoop = .closing rest ∧ c ∈ rest
  finished : ∀ c link, g.links.get? c = some link → link.reader = .finished → link.isOpen = false
  crashed : ∀ c link, g.links.get? c = some link → link.reader = .crashed →
    maxBufferSize < config.readBufferSize
  drained : g.acceptLoop ≠ .accepting → g.registry.entries = []
  returned : g.acceptLoop = .returned →
    ∀ c link, g.links.get? c = some link → link.reader.isOver = true

namespace Custody

variable {config : GatewayConfig} {past events : List GatewayEvent}

/-- A move that registers nothing and keeps the number of connections. -/
theorem registrations_of_length (h : Custody config past g)
    (hlength : g'.links.toList.length = g.links.toList.length)
    (hnone : GatewayEvent.registrations events = []) :
    GatewayEvent.registrations (past ++ events) =
      (List.range g'.links.toList.length).map fun c => (c, c) := by
  rw [GatewayEvent.registrations_append, hnone, List.append_nil, h.registrations, hlength]

theorem keep (h : Custody config past g) (hkeeps : g.KeepsRegistry g')
    (hnone : GatewayEvent.registrations events = []) : Custody config (past ++ events) g' := by
  refine ⟨hkeeps.config.trans h.sameConfig, h.registrations_of_length hkeeps.length hnone,
    fun c link' hlink' => ?_, fun id c hentry => ?_, fun c link' hlink' hopen => ?_,
    fun c link' hlink' hfinished => ?_, fun c link' hlink' hcrashed => ?_, fun hphase => ?_,
    fun hreturned c link' hlink' => ?_⟩
  · obtain ⟨link, hlink, hgoes⟩ := hkeeps.before hlink'
    exact hgoes.id.trans (h.numbered c link hlink)
  · rw [hkeeps.registry] at hentry
    obtain ⟨link, hlink, hid, hopen, hclosing, hfinished⟩ := h.registered id c hentry
    obtain ⟨link', hlink', hgoes⟩ := hkeeps.after hlink
    exact ⟨link', hlink', hgoes.id.trans hid, hgoes.isOpen.trans hopen,
      fun heq => hclosing ((hgoes.reader .closing rfl).1 heq),
      fun heq => hfinished ((hgoes.reader .finished rfl).1 heq)⟩
  · obtain ⟨link, hlink, hgoes⟩ := hkeeps.before hlink'
    rw [hkeeps.registry, hkeeps.acceptLoop, hgoes.id, hgoes.reader .closing rfl]
    exact h.kept c link hlink (hgoes.isOpen ▸ hopen)
  · obtain ⟨link, hlink, hgoes⟩ := hkeeps.before hlink'
    exact hgoes.isOpen.trans (h.finished c link hlink ((hgoes.reader .finished rfl).1 hfinished))
  · obtain ⟨link, hlink, hgoes⟩ := hkeeps.before hlink'
    exact h.crashed c link hlink ((hgoes.reader .crashed rfl).1 hcrashed)
  · rw [hkeeps.acceptLoop] at hphase
    rw [hkeeps.registry]
    exact h.drained hphase
  · obtain ⟨link, hlink, hgoes⟩ := hkeeps.before hlink'
    rw [hkeeps.acceptLoop] at hreturned
    exact hgoes.isOver_eq.trans (h.returned hreturned c link hlink)

/-- The numbers of connections do not wrap around, so that a new one is in nobody's way. -/
theorem register (h : Custody config past g) (haccepting : g.acceptLoop = .accepting)
    (hcount : g.links.toList.length ≤ Text.maxUInt64) (peer : SocketAddress) :
    Custody config
      (past ++ [.judged (.allowed peer), .registered g.links.toList.length g.nextId])
      (g.withConnection peer) := by
  have hid : g.nextId = g.links.toList.length := Nat.mod_eq_of_lt (Nat.lt_succ_of_le hcount)
  have hstart : ∀ phase : ReaderPhase, phase = .start g.config.readBufferSize →
      phase ≠ .closing ∧ phase ≠ .finished ∧
        (phase = .crashed → maxBufferSize < g.config.readBufferSize) := by
    rintro phase rfl
    unfold ReaderPhase.start
    split
    · simp
    · next hgreat => simpa using hgreat
  obtain ⟨hclosing, hfinished, hcrashed⟩ := hstart _ rfl
  have hnew : (g.withConnection peer).links.get? g.links.toList.length =
      some (g.newLink peer) := by
    rw [get?_withConnection, if_pos rfl]
  -- the connections that were there before are where they were
  have hold : ∀ {x link'}, (g.withConnection peer).links.get? x = some link' →
      (x = g.links.toList.length ∧ link' = g.newLink peer) ∨ g.links.get? x = some link' := by
    intro x link' hlink'
    rw [get?_withConnection] at hlink'
    split at hlink'
    · next heq => exact Or.inl ⟨heq, (Option.some.inj hlink').symm⟩
    · exact Or.inr hlink'
  have hlt : ∀ {x link'}, g.links.get? x = some link' → x < g.links.toList.length :=
    fun hlink' => (List.getElem?_eq_some_iff.1 hlink').1
  refine ⟨h.sameConfig, ?_, fun x link' hlink' => ?_, fun id x hentry => ?_,
    fun x link' hlink' hopen => ?_, fun x link' hlink' hphase => ?_,
    fun x link' hlink' hphase => ?_, fun hphase => absurd haccepting hphase, fun hphase => ?_⟩
  · rw [GatewayEvent.registrations_append, h.registrations, hid]
    change _ = (List.range (g.links.toList ++ [g.newLink peer]).length).map _
    rw [List.length_append, List.length_singleton, List.range_succ, List.map_append]
    rfl
  · rcases hold hlink' with ⟨rfl, rfl⟩ | hbefore
    · exact hid
    · exact h.numbered x link' hbefore
  · rcases List.mem_cons.1 hentry with heq | hrest
    · cases heq
      exact ⟨g.newLink peer, hnew, rfl, rfl, hclosing, hfinished⟩
    · obtain ⟨before, hbefore, hkept⟩ := h.registered id x (List.mem_filter.1 hrest).1
      refine ⟨before, ?_, hkept⟩
      rw [get?_withConnection, if_neg (Nat.ne_of_lt (hlt hbefore))]
      exact hbefore
  · rcases hold hlink' with ⟨rfl, rfl⟩ | hbefore
    · exact Or.inl List.mem_cons_self
    · refine (h.kept x link' hbefore hopen).imp_left fun hentry => ?_
      refine List.mem_cons_of_mem _ (List.mem_filter.2 ⟨hentry, ?_⟩)
      rw [h.numbered x link' hbefore, hid]
      exact decide_eq_true (Nat.ne_of_lt (hlt hbefore))
  · rcases hold hlink' with ⟨rfl, rfl⟩ | hbefore
    · exact absurd hphase hfinished
    · exact h.finished x link' hbefore hphase
  · rcases hold hlink' with ⟨rfl, rfl⟩ | hbefore
    · exact h.sameConfig ▸ hcrashed hphase
    · exact h.crashed x link' hbefore hphase
  · change g.acceptLoop = .returned at hphase
    rw [haccepting] at hphase
    cases hphase

/-- A connection is let go, which changes no other. -/
theorem letGo (h : Custody config past g) {change : Link → Link} (hconfig : g'.config = g.config)
    (hlinks : g'.links = g.links.modify c change)
    (hnone : GatewayEvent.registrations events = [])
    (hchange : ∀ link, g.links.get? c = some link → link.IsLetGo (change link))
    (hentries : ∀ id x, (id, x) ∈ g'.registry.entries → (id, x) ∈ g.registry.entries ∧ c ≠ x)
    (hkept : ∀ x link, g.links.get? x = some link → link.isOpen = true → c ≠ x →
      (link.id, x) ∈ g'.registry.entries ∨ link.reader = .closing ∨
        ∃ rest, g'.acceptLoop = .closing rest ∧ x ∈ rest)
    (hdrained : g'.acceptLoop ≠ .accepting → g'.registry.entries = [])
    (hreturned : g'.acceptLoop ≠ .returned) : Custody config (past ++ events) g' := by
  have hlength : g'.links.toList.length = g.links.toList.length := by
    rw [hlinks]
    exact List.length_modify _ _ _
  refine ⟨hconfig.trans h.sameConfig, h.registrations_of_length hlength hnone,
    fun x link' hlink' => ?_, fun id x hentry => ?_, fun x link' hlink' hopen => ?_,
    fun x link' hlink' hphase => ?_, fun x link' hlink' hphase => ?_, hdrained,
    fun hphase => absurd hphase hreturned⟩
  · rw [hlinks] at hlink'
    rcases Links.get?_modify_eq_some hlink' with ⟨rfl, before, hbefore, rfl⟩ | ⟨-, hbefore⟩
    · exact (hchange before hbefore).id.trans (h.numbered c before hbefore)
    · exact h.numbered x link' hbefore
  · obtain ⟨hmem, hne⟩ := hentries id x hentry
    obtain ⟨before, hbefore, hregistered⟩ := h.registered id x hmem
    refine ⟨before, ?_, hregistered⟩
    rw [hlinks, Links.get?_modify, if_neg hne]
    exact hbefore
  · rw [hlinks] at hlink'
    rcases Links.get?_modify_eq_some hlink' with ⟨rfl, before, hbefore, rfl⟩ | ⟨hne, hbefore⟩
    · rcases (hchange before hbefore).closed with hclosed | hclosing
      · rw [hclosed] at hopen
        cases hopen
      · exact Or.inr (Or.inl hclosing)
    · exact hkept x link' hbefore hopen hne
  · rw [hlinks] at hlink'
    rcases Links.get?_modify_eq_some hlink' with ⟨rfl, before, hbefore, rfl⟩ | ⟨-, hbefore⟩
    · rcases (hchange before hbefore).closed with hclosed | hclosing
      · exact hclosed
      · rw [hclosing] at hphase
        cases hphase
    · exact h.finished x link' hbefore hphase
  · rw [hlinks] at hlink'
    rcases Links.get?_modify_eq_some hlink' with ⟨rfl, before, hbefore, rfl⟩ | ⟨-, hbefore⟩
    · exact h.crashed c before hbefore ((hchange before hbefore).crashed hphase)
    · exact h.crashed x link' hbefore hphase

/-- What its reader is about to close, or has closed, is not in the registry. -/
theorem not_mem_of_closing (h : Custody config past g) (hlink : g.links.get? c = some link)
    (hphase : link.reader = .closing ∨ link.reader = .finished) (id : Nat) :
    (id, c) ∉ g.registry.entries := by
  intro hentry
  obtain ⟨before, hbefore, -, -, hclosing, hfinished⟩ := h.registered id c hentry
  rw [hlink] at hbefore
  cases hbefore
  exact hphase.elim hclosing hfinished

/-- A reader whose connection is not over holds the accept loop up. -/
theorem not_returned (h : Custody config past g) (hlink : g.links.get? c = some link)
    (hphase : link.reader.isOver = false) : g.acceptLoop ≠ .returned := by
  intro hreturned
  rw [h.returned hreturned c link hlink] at hphase
  cases hphase

/-- The number of a connection stands for no other, so that its own entry is all that goes. -/
theorem mem_erase_iff (h : Custody config past g) (hlink : g.links.get? c = some link) (id : Nat)
    (x : ConnectionId) : (id, x) ∈ (g.registry.erase link.id).entries ↔
      (id, x) ∈ g.registry.entries ∧ c ≠ x := by
  rw [Table.erase, List.mem_filter, decide_eq_true_iff]
  refine and_congr_right fun hentry => not_congr ?_
  obtain ⟨other, hother, hid, -⟩ := h.registered id x hentry
  rw [← hid, h.numbered x other hother, h.numbered c link hlink]
  exact eq_comm

theorem deregister (h : Custody config past g) (hlink : g.links.get? c = some link)
    (hleaving : link.reader = .leaving) :
    Custody config (past ++ [.deregistered c])
      { g.setReader c .closing with registry := g.registry.erase link.id } := by
  refine h.letGo (c := c) rfl rfl rfl (fun _ _ => ⟨rfl, Or.inr rfl, fun heq => nomatch heq⟩)
    (fun id x => (h.mem_erase_iff hlink id x).1) (fun x other hother hopen hne => ?_)
    (fun hphase => ?_) (h.not_returned hlink (by rw [hleaving]; rfl))
  · exact (h.kept x other hother hopen).imp_left fun hentry =>
      (h.mem_erase_iff hlink _ x).2 ⟨hentry, hne⟩
  · change g.registry.entries.filter _ = []
    rw [h.drained hphase]
    rfl

theorem close (h : Custody config past g) (hlink : g.links.get? c = some link)
    (hclosing : link.reader = .closing) :
    Custody config (past ++ [.closed c])
      ((g.setReader c .finished).mapLink c fun l => { l with isOpen := false }) := by
  refine h.letGo (c := c) rfl (congrArg Links.mk (List.modify_modify_eq _ _ _ _)) rfl
    (fun _ _ => ⟨rfl, Or.inl rfl, fun heq => nomatch heq⟩) (fun id x hentry => ⟨hentry, ?_⟩)
    (fun x other hother hopen _ => h.kept x other hother hopen) h.drained
    (h.not_returned hlink (by rw [hclosing]; rfl))
  rintro rfl
  exact h.not_mem_of_closing hlink (Or.inl hclosing) id hentry

theorem closeNext (h : Custody config past g) {rest : List ConnectionId}
    (hphase : g.acceptLoop = .closing (c :: rest)) :
    Custody config (past ++ [.closed c])
      ({ g with acceptLoop := .closing rest }.mapLink c fun l => { l with isOpen := false }) := by
  have hempty : g.registry.entries = [] := h.drained (by rw [hphase]; exact fun heq => nomatch heq)
  refine h.letGo (c := c) rfl rfl rfl (fun _ _ => ⟨rfl, Or.inl rfl, id⟩)
    (fun id x hentry => ?_) (fun x other hother hopen hne => ?_) (fun _ => hempty)
    (fun heq => nomatch heq)
  · change (id, x) ∈ g.registry.entries at hentry
    rw [hempty] at hentry
    cases hentry
  · refine (h.kept x other hother hopen).imp_right fun hlater => hlater.imp_right ?_
    rintro ⟨links, hlinks, hmem⟩
    rw [hphase] at hlinks
    cases hlinks
    exact ⟨rest, rfl, (List.mem_cons.1 hmem).resolve_left (Ne.symm hne)⟩

/-- What was in the registry is now for the accept loop to close. -/
theorem drain (h : Custody config past g) (haccepting : g.acceptLoop = .accepting) :
    Custody config (past ++ (g.registry.entries.map Prod.snd).map .deregistered)
      { g with acceptLoop := .closing (g.registry.entries.map Prod.snd), registry := .empty } := by
  refine ⟨h.sameConfig, h.registrations_of_length rfl
      (GatewayEvent.quiet_deregistered _).2, h.numbered,
    fun id c hentry => (nomatch hentry), fun c link hlink hopen => ?_, h.finished, h.crashed,
    fun _ => rfl, fun hphase => nomatch hphase⟩
  rcases h.kept c link hlink hopen with hentry | hclosing | ⟨rest, hphase, -⟩
  · exact Or.inr (Or.inr ⟨_, rfl, List.mem_map_of_mem hentry⟩)
  · exact Or.inr (Or.inl hclosing)
  · rw [haccepting] at hphase
    cases hphase

/-- The accept loop has closed everything that it took out of the registry. -/
theorem setPhase (h : Custody config past g) {phase : AcceptPhase} (hnone : ∀ rest,
    g.acceptLoop = .closing rest → rest = []) (hdrained : g.registry.entries = [])
    (hreturned : phase = .returned → ∀ c link, g.links.get? c = some link →
      link.reader.isOver = true) : Custody config past { g with acceptLoop := phase } := by
  refine ⟨h.sameConfig, h.registrations, h.numbered, h.registered, fun c link hlink hopen => ?_,
    h.finished, h.crashed, fun _ => hdrained, hreturned⟩
  refine (h.kept c link hlink hopen).imp_right fun hlater => hlater.imp_right ?_
  rintro ⟨rest, hphase, hmem⟩
  rw [hnone rest hphase] at hmem
  cases hmem

/-- Every move, as long as no more connections are accepted than there are numbers. -/
theorem registryStep (h : Custody config past g) (hstep : g.RegistryStep events g')
    (hcount : g'.links.toList.length ≤ Text.maxUInt64 + 1) :
    Custody config (past ++ events) g' := by
  have hnothing : past ++ ([] : List GatewayEvent) = past := List.append_nil past
  cases hstep with
  | keep hplain _ hkeeps =>
    exact h.keep hkeeps (GatewayEvent.registrations_of_plain hplain)
  | register peer haccepting =>
    have hlength := (RegistryStep.register (g := g) peer haccepting).length
    rw [hlength] at hcount
    exact h.register haccepting (Nat.le_of_succ_le_succ hcount) peer
  | deregister c link hlink hleaving => exact h.deregister hlink hleaving
  | close c link hlink hclosing => exact h.close hlink hclosing
  | drain haccepting => exact h.drain haccepting
  | closeNext c rest hphase => exact h.closeNext hphase
  | await hphase =>
    rw [hnothing]
    refine h.setPhase (fun rest hrest => ?_) (h.drained ?_) (fun heq => nomatch heq)
    · rw [hphase] at hrest
      cases hrest
      rfl
    · rw [hphase]
      exact fun heq => nomatch heq
  | join hphase hover =>
    rw [hnothing]
    have hreturned : Custody config past { g with acceptLoop := .returned } := by
      refine h.setPhase (fun rest hrest => ?_) (h.drained ?_) (fun _ => hover)
      · rw [hphase] at hrest
        cases hrest
      · rw [hphase]
        exact fun heq => nomatch heq
    have hclose : Custody config (past ++ [])
        ({ g with acceptLoop := .returned }.setQueue g.dispatcher.queue.close) :=
      hreturned.keep ((KeepsRegistry.refl _).congr rfl rfl rfl rfl rfl) rfl
    rwa [hnothing] at hclose
  | stop _ _ hkeeps => exact h.keep hkeeps rfl
  | complete => exact h.keep (.of_links rfl rfl rfl id rfl) rfl

/-- Every schedule. -/
theorem run [Bus β] (h : Custody config past g) (schedule : List GatewayMove)
    (hcount : (g.run schedule).2.links.toList.length ≤ Text.maxUInt64 + 1) :
    Custody config (past ++ (g.run schedule).1) (g.run schedule).2 := by
  -- connections never become fewer, so that there were enough numbers all the time
  refine run_induction (motive := fun past g =>
    g.links.toList.length ≤ Text.maxUInt64 + 1 → Custody config past g) past (fun _ => h)
    (fun past g move _ hbefore hle => ?_) hcount
  have hstep := registryStep_step g move
  rw [hstep.length] at hle
  exact (hbefore (Nat.le_trans (Nat.le_add_right _ _) hle)).registryStep hstep
    (hstep.length ▸ hle)

end Custody

theorem custody_fresh (config : GatewayConfig) (dataTypes : Registry) (queue : PacketQueue)
    (bus : β) (metrics : Metrics) :
    Custody config [] (fresh config dataTypes queue bus metrics) :=
  ⟨rfl, rfl, fun _ _ hlink => (nomatch hlink), fun _ _ hentry => (nomatch hentry),
    fun _ _ hlink => (nomatch hlink), fun _ _ hlink => (nomatch hlink),
    fun _ _ hlink => (nomatch hlink), fun _ => rfl, fun hphase => (nomatch hphase)⟩

/-! ## The states of the gateway -/

/-- A gateway has gone through the states on the way to its own, and has stopped only if all its
    activities have ended. -/
structure StagesInOrder (past : List GatewayEvent) (g : Gateway β) : Prop where
  stages : GatewayEvent.stages past = g.state.trail
  ended : g.state = .stopped → g.acceptLoop = .returned ∧ g.dispatcher.running = false

namespace StagesInOrder

variable {past events : List GatewayEvent}

/-- A move that shows no other state. -/
theorem keep (h : StagesInOrder past g) (hnone : GatewayEvent.stages events = [])
    (hstate : g'.state = g.state) (hphase : g.acceptLoop = .returned → g'.acceptLoop = .returned)
    (hrunning : g.dispatcher.running = false → g'.dispatcher.running = false) :
    StagesInOrder (past ++ events) g' := by
  refine ⟨?_, fun hstopped => ?_⟩
  · rw [GatewayEvent.stages_append, hnone, List.append_nil, hstate, h.stages]
  · obtain ⟨hreturned, hended⟩ := h.ended (hstate ▸ hstopped)
    exact ⟨hphase hreturned, hrunning hended⟩

theorem registryStep (h : StagesInOrder past g) (hstep : g.RegistryStep events g') :
    StagesInOrder (past ++ events) g' := by
  cases hstep with
  | keep hplain hstate hkeeps =>
    exact h.keep (GatewayEvent.stages_of_plain hplain) hstate
      (fun hreturned => hkeeps.acceptLoop.trans hreturned) hkeeps.running
  | register _ haccepting =>
    exact h.keep rfl rfl (fun hreturned => by rw [haccepting] at hreturned; cases hreturned) id
  | deregister | close => exact h.keep rfl rfl id id
  | drain haccepting =>
    exact h.keep (GatewayEvent.quiet_deregistered _).1 rfl
      (fun hreturned => by rw [haccepting] at hreturned; cases hreturned) id
  | closeNext c rest hphase | await hphase =>
    exact h.keep rfl rfl (fun hreturned => by rw [hphase] at hreturned; cases hreturned) id
  | join => exact h.keep rfl rfl (fun _ => rfl) id
  | stop hrunning hstopping =>
    refine ⟨?_, fun hstopped => ?_⟩
    · rw [GatewayEvent.stages_append, h.stages, hrunning, hstopping]
      rfl
    · rw [hstopping] at hstopped
      cases hstopped
  | complete hstopping hreturned hended =>
    refine ⟨?_, fun _ => ⟨hreturned, hended⟩⟩
    rw [GatewayEvent.stages_append, h.stages, hstopping]
    rfl

theorem run [Bus β] (h : StagesInOrder past g) (schedule : List GatewayMove) :
    StagesInOrder (past ++ (g.run schedule).1) (g.run schedule).2 :=
  run_induction past h fun _ g move _ h => h.registryStep (registryStep_step g move)

end StagesInOrder

/-! ## The registry in every run -/

/-- A connection is in the registry. -/
def IsRegistered (g : Gateway β) (c : ConnectionId) : Prop :=
  ∃ id, (id, c) ∈ g.registry.entries

/-- How the reader of a connection leaves: it takes its own connection out of the registry and no
    other, then closes it and no other, and has so done both when it ends. It ends otherwise only
    if no machine could provide its buffer. -/
structure LeavesInOrder [Bus β] (config : GatewayConfig) (g : Gateway β) (c : ConnectionId)
    (link : Link) : Prop where
  deregisters : link.reader = .leaving →
    (g.step (.leave c)).2.links = g.links.modify c (fun l => { l with reader := .closing }) ∧
      ∀ x, (g.step (.leave c)).2.IsRegistered x ↔ g.IsRegistered x ∧ x ≠ c
  closes : link.reader = .closing →
    (g.step (.leave c)).2.links =
        g.links.modify c (fun l => { l with isOpen := false, reader := .finished }) ∧
      (g.step (.leave c)).2.registry = g.registry
  finished : link.reader = .finished → link.isOpen = false ∧ ¬g.IsRegistered c
  crashed : link.reader = .crashed → maxBufferSize < config.readBufferSize

/-- How a gateway with the given past keeps its connections. -/
structure KeepsConnections [Bus β] (config : GatewayConfig) (past : List GatewayEvent)
    (g : Gateway β) : Prop where
  /-- No two connections were given the same number. -/
  distinct : ((GatewayEvent.registrations past).map Prod.snd).Nodup
  /-- What is registered is registered under its number, and open. -/
  registered : ∀ id c, (id, c) ∈ g.registry.entries →
    ∃ link, g.links.get? c = some link ∧ link.id = id ∧ link.isOpen = true
  /-- Nothing is closed while it is registered. -/
  closes : ∀ move c, .closed c ∈ (g.step move).1 → ¬g.IsRegistered c
  leaves : ∀ c link, g.links.get? c = some link → g.LeavesInOrder config c link

/-- Nothing is left in the registry, and every connection that was ever registered is closed. -/
structure HasLetGo (past : List GatewayEvent) (g : Gateway β) : Prop where
  empty : g.registry.entries = []
  closed : ∀ c id, (c, id) ∈ GatewayEvent.registrations past →
    ∃ link, g.links.get? c = some link ∧ link.id = id ∧ link.isOpen = false

namespace Custody

variable {config : GatewayConfig} {past events : List GatewayEvent}

/-- What a move closes has been taken out of the registry before. -/
theorem not_isRegistered (h : Custody config past g) (hstep : g.RegistryStep events g')
    (hclosed : .closed c ∈ events) : ¬g.IsRegistered c := by
  rintro ⟨id, hentry⟩
  cases hstep with
  | keep hplain => exact absurd (hplain _ hclosed) Bool.false_ne_true
  | close c link hlink hclosing =>
    cases List.mem_singleton.1 hclosed
    exact h.not_mem_of_closing hlink (Or.inl hclosing) id hentry
  | closeNext c rest hphase =>
    -- the accept loop has emptied the registry
    rw [h.drained (by rw [hphase]; exact fun heq => nomatch heq)] at hentry
    cases hentry
  | drain =>
    obtain ⟨c, -, heq⟩ := List.mem_map.1 hclosed
    cases heq
  | register | deregister | await | join | stop | complete => simp at hclosed

theorem leavesInOrder [Bus β] (h : Custody config past g) (hlink : g.links.get? c = some link) :
    g.LeavesInOrder config c link := by
  refine ⟨fun hleaving => ?_, fun hclosing => ?_, fun hfinished => ?_, h.crashed c link hlink⟩
  · simp only [step, leave, hlink, hleaving]
    refine ⟨rfl, fun x => ⟨?_, ?_⟩⟩
    · rintro ⟨id, hentry⟩
      obtain ⟨hmem, hne⟩ := (h.mem_erase_iff hlink id x).1 hentry
      exact ⟨⟨id, hmem⟩, Ne.symm hne⟩
    · rintro ⟨⟨id, hentry⟩, hne⟩
      exact ⟨id, (h.mem_erase_iff hlink id x).2 ⟨hentry, Ne.symm hne⟩⟩
  · simp only [step, leave, hlink, hclosing]
    exact ⟨congrArg Links.mk (List.modify_modify_eq _ _ _ _), rfl⟩
  · refine ⟨h.finished c link hlink hfinished, ?_⟩
    rintro ⟨id, hentry⟩
    exact h.not_mem_of_closing hlink (Or.inr hfinished) id hentry

theorem keepsConnections [Bus β] (h : Custody config past g) :
    KeepsConnections config past g := by
  refine ⟨?_, fun id c hentry => ?_,
    fun move c hclosed => h.not_isRegistered (registryStep_step g move) hclosed,
    fun c link hlink => h.leavesInOrder hlink⟩
  · have hids : (GatewayEvent.registrations past).map Prod.snd =
        List.range g.links.toList.length := by
      rw [h.registrations, List.map_map]
      exact List.map_id _
    rw [hids]
    exact List.nodup_range
  · obtain ⟨link, hlink, hid, hopen, -⟩ := h.registered id c hentry
    exact ⟨link, hlink, hid, hopen⟩

/-- An accept loop that has returned has waited for all readers, and closed what they did not. -/
theorem hasLetGo (h : Custody config past g) (hreturned : g.acceptLoop = .returned) :
    HasLetGo past g := by
  have hempty : g.registry.entries = [] :=
    h.drained (by rw [hreturned]; exact fun heq => nomatch heq)
  refine ⟨hempty, fun c id hmem => ?_⟩
  rw [h.registrations] at hmem
  obtain ⟨x, hx, heq⟩ := List.mem_map.1 hmem
  cases heq
  obtain ⟨link, hlink⟩ : ∃ link, g.links.get? c = some link :=
    ⟨_, List.getElem?_eq_getElem (List.mem_range.1 hx)⟩
  refine ⟨link, hlink, h.numbered c link hlink, Bool.eq_false_iff.2 fun hopen => ?_⟩
  rcases h.kept c _ hlink hopen with hentry | hclosing | ⟨rest, hphase, -⟩
  · rw [hempty] at hentry
    cases hentry
  · exact h.not_returned hlink (by rw [hclosing]; rfl) hreturned
  · rw [hreturned] at hphase
    cases hphase

end Custody

/-- In every run of a gateway that was started, whatever clients, readers, dispatcher and owner do
    and in whatever order, connections have distinct numbers as long as there are enough of them,
    what is in the registry is open, and each reader that ends takes out and closes its own
    connection. Once the accept loop has returned, the registry is empty for good and everything
    that was accepted is closed. The gateway shows its states in order, and the last one only when
    both its loops have ended. -/
theorem run_keeps_connections [Bus β] {host : Host} {config : GatewayConfig}
    {dataTypes : Registry} {bus : β} {metrics : Metrics} {started events : List GatewayEvent}
    {g₀ g : Gateway β} {schedule : List GatewayMove}
    (hstart : start host config dataTypes bus metrics = .ok (started, g₀))
    (hrun : g₀.run schedule = (events, g))
    (hcount : (GatewayEvent.registrations events).length ≤ Text.maxUInt64 + 1) :
    KeepsConnections config events g ∧
      (g.acceptLoop = .returned → ∀ later, HasLetGo events (g.run later).2 ∧
        GatewayEvent.registrations (g.run later).1 = []) ∧
      GatewayEvent.stages (started ++ events) <+:
        [.stopped, .starting, .running, .stopping, .stopped] ∧
      (GatewayEvent.stages (started ++ events) =
          [.stopped, .starting, .running, .stopping, .stopped] →
        g.openConnections = 0 ∧ g.acceptLoop = .returned ∧ g.dispatcher.running = false) := by
  obtain ⟨-, -, rfl, queue, -, rfl⟩ := start_eq_ok_iff.1 hstart
  have hlength := length_run (fresh config dataTypes queue bus metrics) schedule
  rw [hrun, show (fresh config dataTypes queue bus metrics).links.toList.length = 0 from rfl,
    Nat.zero_add] at hlength
  have hcustody : Custody config events g := by
    have hfresh := custody_fresh config dataTypes queue bus metrics
    have h := hfresh.run schedule (by rw [hrun, hlength]; exact hcount)
    rwa [hrun, List.nil_append] at h
  have hstages : StagesInOrder ([.entered .stopped, .entered .starting, .entered .running] ++ events)
      g := by
    have hstarted : StagesInOrder [.entered .stopped, .entered .starting, .entered .running]
        (fresh config dataTypes queue bus metrics) := ⟨rfl, fun heq => nomatch heq⟩
    have h := hstarted.run schedule
    rwa [hrun] at h
  refine ⟨hcustody.keepsConnections, fun hreturned later => ?_, ?_, fun hall => ?_⟩
  · obtain ⟨hreturned', hnone⟩ := returned_run hreturned later
    have hlater := hcustody.run later (by rw [length_run, hnone, hlength]; exact hcount)
    obtain ⟨hempty, hclosed⟩ := hlater.hasLetGo hreturned'
    rw [GatewayEvent.registrations_append, hnone, List.append_nil] at hclosed
    exact ⟨⟨hempty, hclosed⟩, hnone⟩
  · rw [hstages.stages]
    cases g.state <;> decide
  · have hstopped : g.state = .stopped := by
      rw [hstages.stages] at hall
      revert hall
      cases g.state <;> decide
    obtain ⟨hreturned, hended⟩ := hstages.ended hstopped
    refine ⟨?_, hreturned, hended⟩
    exact List.length_eq_zero_iff.2
      (hcustody.drained (by rw [hreturned]; exact fun heq => nomatch heq))

/-- Two clients, of which one leaves just before the gateway is shut down. Its connection is out of
    the registry when the accept loop empties it, and closed only afterwards; the other connection
    is closed twice. -/
theorem run_keeps_connections_shutdown :
    ∃ (started events : List GatewayEvent) (g₀ g : Gateway MemoryBus)
      (schedule : List GatewayMove),
      start .standalone .default .reference .initial .zero = .ok (started, g₀) ∧
        g₀.run schedule = (events, g) ∧
        GatewayEvent.registrations events = [(0, 0), (1, 1)] ∧
        GatewayEvent.stages (started ++ events) =
          [.stopped, .starting, .running, .stopping, .stopped] ∧
        KeepsConnections .default events g ∧
        (∀ later, HasLetGo events (g.run later).2 ∧
          GatewayEvent.registrations (g.run later).1 = []) ∧
        g.openConnections = 0 ∧ g.dispatcher.running = false := by
  let g₀ : Gateway MemoryBus := fresh .default .reference ⟨1024, [], false⟩ .initial .zero
  let schedule : List GatewayMove :=
    [.connect (some ⟨.v4 ⟨127, 0, 0, 1⟩, 40000⟩), .connect (some ⟨.v4 ⟨127, 0, 0, 1⟩, 40001⟩),
      .read 0 [0], .publish 0, .readEnd 0, .leave 0, .shutdown, .stopAccepting, .poll, .closeNext,
      .stopReader 1, .leave 1, .leave 0, .closeNext, .leave 1, .join, .complete]
  let started : List GatewayEvent := [.entered .stopped, .entered .starting, .entered .running]
  obtain ⟨hregistrations, hstages⟩ :
      GatewayEvent.registrations (g₀.run schedule).1 = [(0, 0), (1, 1)] ∧
        GatewayEvent.stages (started ++ (g₀.run schedule).1) =
          [.stopped, .starting, .running, .stopping, .stopped] := by
    decide +kernel
  have hcount : (GatewayEvent.registrations (g₀.run schedule).1).length ≤ Text.maxUInt64 + 1 := by
    rw [hregistrations]
    decide
  obtain ⟨hkeeps, hafter, -, hended⟩ :=
    run_keeps_connections start_default (Prod.eta (g₀.run schedule)).symm hcount
  obtain ⟨hopen, hreturned, hrunning⟩ := hended hstages
  exact ⟨started, _, g₀, _, schedule, start_default, (Prod.eta _).symm, hregistrations, hstages,
    hkeeps, hafter hreturned, hopen, hrunning⟩

end Gateway

end KnxGateway
