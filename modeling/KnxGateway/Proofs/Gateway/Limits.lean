import KnxGateway.Proofs.Config.Environment
import KnxGateway.Proofs.Config.RoundTrip
import KnxGateway.Proofs.Gateway.RegistrySteps

set_option autoImplicit false

/-! # Configurations that ask for too much

Whoever reads a configuration checks that its queue has a place and that its buffers hold the fields
of a request. Nobody checks that the queue can be made and that the buffers can be had: every number
of 64 bits that is not too small is accepted, from the environment and from a JSON text alike. With
more than the greatest capacity a gateway breaks down at its start. With more than the greatest
buffer every reader breaks down at once, and its connection stays in the registry, open and unread,
for as long as the gateway runs. -/

namespace KnxGateway

open Text

/-! ## Sizes that are accepted -/

/-- Where a configuration is read from. -/
inductive ConfigSource where
  | environment (env : Environment)
  | jsonText (s : String)

/-- A source is accepted, and a configuration is read from it. -/
inductive ConfigSource.Yields : ConfigSource → GatewayConfig → Prop where
  | environment {env : Environment} {s : Settings} : Settings.ofEnvironment env = .ok s →
      Yields (.environment env) s.toGatewayConfig
  | jsonText {s : String} {c : GatewayConfig} : GatewayConfig.ofJsonText s = .ok c →
      Yields (.jsonText s) c

/-- A capacity and a size of buffers that have 64 bits and are not too small. -/
def PassChecks (capacity size : Nat) : Prop :=
  (0 < capacity ∧ capacity ≤ maxUInt64) ∧ minReadBufferSize ≤ size ∧ size ≤ maxUInt64

namespace Environment

variable {env : Environment} {key : SettingKey} {least default n : Nat}

/-- What is read is the default or the value of a text. -/
theorem eq_default_or_of_read {α : Type} {parse? : String → Option α} {default x : α}
    (h : env.read key parse? default = .ok x) : x = default ∨ ∃ v, parse? v = some x := by
  unfold read at h
  cases hvalue : env.value? key with
  | none =>
    rw [hvalue] at h
    cases h
    exact .inl rfl
  | some v =>
    rw [hvalue] at h
    dsimp only at h
    cases hparse : parse? v with
    | none => rw [hparse] at h; cases h
    | some y =>
      rw [hparse] at h
      cases h
      exact .inr ⟨v, hparse⟩

theorem readNat_of_readSize (h : env.readSize key least default = .ok n) :
    env.readNat key maxUInt64 default = .ok n := by
  unfold readSize at h
  cases hnumber : env.readNat key maxUInt64 default with
  | error e => rw [hnumber] at h; cases h
  | ok m =>
    rw [hnumber] at h
    dsimp only at h
    split at h
    · cases h
    · cases h
      rfl

/-- Sizes have 64 bits. -/
theorem readSize_le (hdefault : default ≤ maxUInt64) (h : env.readSize key least default = .ok n) :
    n ≤ maxUInt64 := by
  rcases eq_default_or_of_read (readNat_of_readSize h) with rfl | ⟨v, hv⟩
  · exact hdefault
  · exact le_of_readUnsigned? hv

theorem value?_of_decimal (h : env key.name = some (decimalText n)) :
    env.value? key = some (decimalText n) := by
  have htrim : trim (decimal n) = decimal n :=
    trim_of_no_blank fun c hc => isBlank_of_isDigit (isDigit_of_mem_decimal hc)
  refine value?_eq_some_iff.2 ⟨_, h, ?_, ?_⟩
  · rw [decimalText, String.toList_ofList, Bool.eq_false_iff, ne_eq, isAllBlank_iff_trim_eq_nil,
      htrim]
    exact decimal_ne_nil n
  · rw [trimmed, decimalText, String.toList_ofList, htrim]

/-- A size is read back from its decimal text. -/
theorem readSize_of_decimal (h : env key.name = some (decimalText n)) (hleast : least ≤ n)
    (hmost : n ≤ maxUInt64) : env.readSize key least default = .ok n := by
  simp only [readSize, readNat, read, value?_of_decimal h, decimalText, String.toList_ofList,
    readUnsigned?_decimal hmost, if_neg (Nat.not_lt.2 hleast)]

/-- The environment in which nothing but the sizes is set. -/
def ofSizes (capacity size : Nat) : Environment := fun name =>
  if name = SettingKey.queueCapacity.name then some (decimalText capacity)
  else if name = SettingKey.readBufferSize.name then some (decimalText size)
  else none

theorem value?_ofSizes (capacity size : Nat) (key : SettingKey) (hcapacity : key ≠ .queueCapacity)
    (hsize : key ≠ .readBufferSize) : (ofSizes capacity size).value? key = none := by
  have hname : (ofSizes capacity size) key.name = none := by
    cases key <;> first | rfl | exact absurd rfl hcapacity | exact absurd rfl hsize
  simp only [value?, hname]

end Environment

open Environment in
theorem Settings.exists_ofEnvironment_ofSizes {capacity size : Nat}
    (h : PassChecks capacity size) :
    ∃ s, Settings.ofEnvironment (ofSizes capacity size) = .ok s ∧ s.queueCapacity = capacity ∧
      s.readBufferSize = size := by
  obtain ⟨⟨hcapacity, hcapacity'⟩, hsize, hsize'⟩ := h
  have hqueue : (ofSizes capacity size).readSize .queueCapacity 1 1024 = .ok capacity :=
    readSize_of_decimal rfl hcapacity hcapacity'
  have hbuffer :
      (ofSizes capacity size).readSize .readBufferSize minReadBufferSize 512 = .ok size :=
    readSize_of_decimal rfl hsize hsize'
  have hport := value?_ofSizes capacity size .serverPort nofun nofun
  have hmode := value?_ofSizes capacity size .knxMode nofun nofun
  have haddress := value?_ofSizes capacity size .knxAddress nofun nofun
  have hknxPort := value?_ofSizes capacity size .knxPort nofun nofun
  unfold ofEnvironment
  simp only [hqueue, hbuffer, readNat, Environment.read, hport, hmode, haddress, hknxPort]
  exact ⟨_, rfl, rfl, rfl⟩

namespace GatewayConfig

theorem problem?_eq_none_iff {c : GatewayConfig} :
    c.problem? = none ↔ 0 < c.queueCapacity ∧ minReadBufferSize ≤ c.readBufferSize := by
  unfold problem?
  grind

theorem ofJsonText_eq_ok_iff {s : String} {c : GatewayConfig} :
    ofJsonText s = .ok c ↔
      (JsonValue.parse? s.toList).bind ofJson? = some c ∧ c.problem? = none := by
  unfold ofJsonText
  cases (JsonValue.parse? s.toList).bind ofJson? with
  | none => simp
  | some read =>
    dsimp only
    cases hproblem : read.problem? with
    | none => grind
    | some problem => grind

theorem le_of_unsigned? {bound n : Nat} {value : JsonValue} (h : value.unsigned? bound = some n) :
    n ≤ bound := by
  unfold JsonValue.unsigned? at h
  grind

theorem le_of_readField {bound n default' : Nat} {value : Option JsonValue}
    (hdefault : default' ≤ bound)
    (h : readField (JsonValue.unsigned? bound) default' value = some n) : n ≤ bound := by
  cases value with
  | none =>
    cases h
    exact hdefault
  | some value => exact le_of_unsigned? h

/-- The sizes of a configuration that is read from JSON have 64 bits. -/
theorem le_of_ofFields? {listenAddr allowed notify capacity size : Option JsonValue}
    {c : GatewayConfig} (h : ofFields? listenAddr allowed notify capacity size = some c) :
    c.queueCapacity ≤ maxUInt64 ∧ c.readBufferSize ≤ maxUInt64 := by
  simp only [ofFields?, Option.bind_eq_bind, Option.bind_eq_some_iff, Option.pure_def,
    Option.some.injEq] at h
  obtain ⟨_, -, _, -, _, -, n, hcapacity, m, hsize, rfl⟩ := h
  exact ⟨le_of_readField (by decide) hcapacity, le_of_readField (by decide) hsize⟩

theorem le_of_ofJson? {value : JsonValue} {c : GatewayConfig} (h : ofJson? value = some c) :
    c.queueCapacity ≤ maxUInt64 ∧ c.readBufferSize ≤ maxUInt64 := by
  cases value with
  | object members =>
    simp only [ofJson?, Option.bind_eq_bind, Option.bind_eq_some_iff] at h
    obtain ⟨_, -, _, -, _, -, _, -, _, -, _, -, h⟩ := h
    exact le_of_ofFields? h
  | array elements =>
    simp only [ofJson?] at h
    split at h
    · exact le_of_ofFields? h
    · cases h
  | _ => cases h

end GatewayConfig

namespace ConfigSource

variable {source : ConfigSource} {c : GatewayConfig}

theorem Yields.problem?_eq_none (h : source.Yields c) : c.problem? = none := by
  cases h with
  | environment h => exact Settings.problem?_toGatewayConfig h
  | jsonText h => exact (GatewayConfig.ofJsonText_eq_ok_iff.1 h).2

/-- Only sizes that are checked are accepted. -/
theorem Yields.passChecks (h : source.Yields c) : PassChecks c.queueCapacity c.readBufferSize := by
  obtain ⟨hcapacity, hsize⟩ := GatewayConfig.problem?_eq_none_iff.1 h.problem?_eq_none
  have hle : c.queueCapacity ≤ maxUInt64 ∧ c.readBufferSize ≤ maxUInt64 := by
    cases h with
    | environment h =>
      obtain ⟨-, hqueue, hbuffer⟩ := Settings.reads_of_ofEnvironment h
      exact ⟨Environment.readSize_le (by decide) hqueue,
        Environment.readSize_le (by decide) hbuffer⟩
    | jsonText h =>
      obtain ⟨value, -, hread⟩ :=
        Option.bind_eq_some_iff.1 (GatewayConfig.ofJsonText_eq_ok_iff.1 h).1
      exact GatewayConfig.le_of_ofJson? hread
  exact ⟨⟨hcapacity, hle.1⟩, hsize, hle.2⟩

/-- A configuration with checked sizes is accepted from the text that it is written as. -/
theorem yields_jsonText (h : PassChecks c.queueCapacity c.readBufferSize) :
    (jsonText c.jsonText).Yields c :=
  .jsonText (GatewayConfig.ofJsonText_eq_ok_iff.2
    ⟨c.isTextOf_jsonText.bind_parse?_eq h.1.2 h.2.2,
      GatewayConfig.problem?_eq_none_iff.2 ⟨h.1.1, h.2.1⟩⟩)

/-- The sizes that are accepted from an environment. -/
theorem exists_environment_yields_iff (capacity size : Nat) :
    (∃ env c, (environment env).Yields c ∧ c.queueCapacity = capacity ∧ c.readBufferSize = size) ↔
      PassChecks capacity size := by
  constructor
  · rintro ⟨env, c, h, rfl, rfl⟩
    exact h.passChecks
  · intro h
    obtain ⟨s, hs, hcapacity, hsize⟩ := Settings.exists_ofEnvironment_ofSizes h
    exact ⟨_, _, .environment hs, hcapacity, hsize⟩

/-- The sizes that are accepted from a JSON text. -/
theorem exists_jsonText_yields_iff (capacity size : Nat) :
    (∃ s c, (jsonText s).Yields c ∧ c.queueCapacity = capacity ∧ c.readBufferSize = size) ↔
      PassChecks capacity size := by
  constructor
  · rintro ⟨s, c, h, rfl, rfl⟩
    exact h.passChecks
  · intro h
    let c : GatewayConfig :=
      { GatewayConfig.default with queueCapacity := capacity, readBufferSize := size }
    exact ⟨c.jsonText, c, yields_jsonText h, rfl, rfl⟩

end ConfigSource

/-! ## Activities that break down -/

theorem ReaderPhase.start_eq_crashed_iff {size : Nat} :
    ReaderPhase.start size = .crashed ↔ maxBufferSize < size := by
  unfold start
  grind

namespace Gateway

variable {β : Type} {g g' : Gateway β} {events : List GatewayEvent} {config : GatewayConfig}

theorem start_eq_queueTooLarge_iff (host : Host) (dataTypes : Registry) (bus : β)
    (metrics : Metrics) (h : config.problem? = none) :
    start host config dataTypes bus metrics = .error .queueTooLarge ↔
      PacketQueue.maxCapacity < config.queueCapacity := by
  have hcapacity := (GatewayConfig.problem?_eq_none_iff.1 h).1
  simp only [start, h, PacketQueue.ofCapacity?, Nat.max_eq_left hcapacity]
  by_cases hle : config.queueCapacity ≤ PacketQueue.maxCapacity
  · rw [if_pos hle]
    cases host.listenAddress? config.listenAddr with
    | none => simpa using hle
    | some address => simpa using hle
  · rw [if_neg hle]
    simpa using hle

/-- The readers of a gateway have broken down exactly if their buffers cannot be had. -/
structure BreaksOverBuffers (config : GatewayConfig) (g : Gateway β) : Prop where
  sameConfig : g.config = config
  crashed_iff : ∀ c link, g.links.get? c = some link →
    (link.reader = .crashed ↔ maxBufferSize < config.readBufferSize)

/-- All clients that were let in are stranded: their readers have broken down, nothing was ever
    read, and no connection was taken out of the registry or closed before the accept loop
    stopped. -/
structure StrandsClients (past : List GatewayEvent) (g : Gateway β) : Prop where
  crashed : ∀ c link, g.links.get? c = some link → link.reader = .crashed
  unread : ∀ c bytes, .received c bytes ∉ past
  kept : g.acceptLoop = .accepting → ∀ c, .deregistered c ∉ past ∧ .closed c ∉ past

namespace BreaksOverBuffers

theorem fresh (config : GatewayConfig) (dataTypes : Registry) (queue : PacketQueue) (bus : β)
    (metrics : Metrics) :
    BreaksOverBuffers config (Gateway.fresh config dataTypes queue bus metrics) :=
  ⟨rfl, fun _ _ h => nomatch h⟩

/-- A reader that leaves, and closes its connection, has not broken down and does not. -/
theorem registryStep (h : BreaksOverBuffers config g) (hstep : g.RegistryStep events g') :
    BreaksOverBuffers config g' := by
  obtain ⟨hconfig, hcrashed⟩ := h
  have hkeeps : g.KeepsRegistry g' → BreaksOverBuffers config g' := by
    intro hkeeps
    refine ⟨hkeeps.config.trans hconfig, ?_⟩
    intro c link' hlink'
    obtain ⟨link, hlink, hgoes⟩ := hkeeps.before hlink'
    rw [hgoes.reader .crashed rfl, hcrashed c link hlink]
  have hfits : ∀ {c link}, g.links.get? c = some link → link.reader ≠ .crashed →
      ¬maxBufferSize < config.readBufferSize := by
    intro c link hlink hreader htooLarge
    exact hreader ((hcrashed c link hlink).2 htooLarge)
  -- only the first buffer decides: a reader that goes on or leaves has got it
  cases hstep with
  | keep _ _ h => exact hkeeps h
  | stop _ _ h => exact hkeeps h
  | register peer =>
    refine ⟨hconfig, ?_⟩
    intro x link' hlink'
    rw [get?_withConnection] at hlink'
    split at hlink'
    · cases hlink'
      rw [← hconfig]
      exact ReaderPhase.start_eq_crashed_iff
    · exact hcrashed x link' hlink'
  | deregister c link hlink hleaving =>
    refine ⟨hconfig, ?_⟩
    intro x link' hlink'
    rcases Links.get?_modify_eq_some hlink' with ⟨rfl, _, -, rfl⟩ | ⟨-, hsame⟩
    · exact iff_of_false nofun (hfits hlink (by rw [hleaving]; nofun))
    · exact hcrashed x link' hsame
  | close c link hlink hclosing =>
    refine ⟨hconfig, ?_⟩
    intro x link' hlink'
    rcases Links.get?_modify_eq_some hlink' with ⟨rfl, closing, hclosed, rfl⟩ | ⟨hne, hother⟩
    · rcases Links.get?_modify_eq_some hclosed with ⟨-, _, -, rfl⟩ | ⟨hne, -⟩
      · exact iff_of_false nofun (hfits hlink (by rw [hclosing]; nofun))
      · exact absurd rfl hne
    · rcases Links.get?_modify_eq_some hother with ⟨heq, -⟩ | ⟨-, hsame⟩
      · exact absurd heq hne
      · exact hcrashed x link' hsame
  | closeNext c rest =>
    refine ⟨hconfig, ?_⟩
    intro x link' hlink'
    rcases Links.get?_modify_eq_some hlink' with ⟨-, link, hlink, rfl⟩ | ⟨-, hsame⟩
    · exact hcrashed x link hlink
    · exact hcrashed x link' hsame
  | drain | await | join | complete => exact ⟨hconfig, hcrashed⟩

theorem run [Bus β] (h : BreaksOverBuffers config g) (schedule : List GatewayMove) :
    BreaksOverBuffers config (g.run schedule).2 :=
  run_induction (motive := fun _ g => BreaksOverBuffers config g) [] h
    fun _ g move _ h => h.registryStep (registryStep_step g move)

end BreaksOverBuffers

/-! ## Stranded clients -/

/-- Bytes are received by a reader that reads. -/
theorem Outcome.reading_of_received [Bus β] {move : GatewayMove} (h : g.Outcome move events g')
    {c : ConnectionId} {bytes : List UInt8} (hmem : .received c bytes ∈ events) :
    ∃ link, g.links.get? c = some link ∧ link.reader = .reading := by
  cases h with
  | read x link _ hlink hreading =>
    simp only [List.mem_singleton, GatewayEvent.received.injEq] at hmem
    exact ⟨link, hmem.1 ▸ hlink, hreading⟩
  | accept peer =>
    rcases accept_cases g peer with ⟨admitted, -, haccept⟩ | haccept <;>
      simp [haccept] at hmem
  | _ => simp at hmem

/-- A connection is let go by its reader or by an accept loop that stops. -/
theorem RegistryStep.leaves_or_stops (h : g.RegistryStep events g') {c : ConnectionId}
    (hmem : .deregistered c ∈ events ∨ .closed c ∈ events) :
    (∃ x link, g.links.get? x = some link ∧ link.reader ≠ .crashed) ∨
      g'.acceptLoop ≠ .accepting := by
  cases h with
  | keep hplain => rcases hmem with hmem | hmem <;> cases hplain _ hmem
  | deregister x link hlink hleaving => exact .inl ⟨x, link, hlink, by rw [hleaving]; nofun⟩
  | close x link hlink hclosing => exact .inl ⟨x, link, hlink, by rw [hclosing]; nofun⟩
  | drain => exact .inr nofun
  | closeNext => exact .inr nofun
  | register | await | join | stop | complete => simp at hmem

/-- An accept loop that accepts has accepted before. -/
theorem RegistryStep.accepting_before (h : g.RegistryStep events g')
    (haccepting : g'.acceptLoop = .accepting) : g.acceptLoop = .accepting := by
  cases h with
  | keep _ _ hkeeps => exact hkeeps.acceptLoop ▸ haccepting
  | stop _ _ hkeeps => exact hkeeps.acceptLoop ▸ haccepting
  | register _ hphase | drain hphase => exact hphase
  | deregister | close | complete => exact haccepting
  | closeNext | await | join => cases haccepting

namespace StrandsClients

variable {past : List GatewayEvent}

/-- Clients whose readers break down at once are stranded, and stay so. -/
theorem step [Bus β] (h : StrandsClients past g) (htooLarge : maxBufferSize < config.readBufferSize)
    (hbreaks : BreaksOverBuffers config g) (move : GatewayMove) :
    StrandsClients (past ++ (g.step move).1) (g.step move).2 := by
  have hstep := registryStep_step g move
  have hbreaks' := hbreaks.registryStep hstep
  refine ⟨fun c link hlink => (hbreaks'.crashed_iff c link hlink).2 htooLarge,
    fun c bytes hmem => ?_, fun haccepting c => ?_⟩
  · rcases List.mem_append.1 hmem with hpast | hnow
    · exact h.unread c bytes hpast
    · obtain ⟨link, hlink, hreading⟩ := (g.outcome_step move).reading_of_received hnow
      rw [h.crashed c link hlink] at hreading
      cases hreading
  · obtain ⟨hderegistered, hclosed⟩ := h.kept (hstep.accepting_before haccepting) c
    have hnow : ¬(.deregistered c ∈ (g.step move).1 ∨ .closed c ∈ (g.step move).1) := by
      intro hmem
      rcases hstep.leaves_or_stops hmem with ⟨x, link, hlink, hreader⟩ | hstops
      · exact hreader (h.crashed x link hlink)
      · exact hstops haccepting
    rw [not_or] at hnow
    simp only [List.mem_append, not_or]
    exact ⟨⟨hderegistered, hnow.1⟩, hclosed, hnow.2⟩

theorem run [Bus β] (h : StrandsClients past g) (htooLarge : maxBufferSize < config.readBufferSize)
    (hbreaks : BreaksOverBuffers config g) (schedule : List GatewayMove) :
    StrandsClients (past ++ (g.run schedule).1) (g.run schedule).2 :=
  (run_induction (motive := fun past g => BreaksOverBuffers config g ∧ StrandsClients past g) past
    ⟨hbreaks, h⟩ fun _ g move _ h =>
      ⟨h.1.registryStep (registryStep_step g move), h.2.step htooLarge h.1 move⟩).2

theorem fresh (config : GatewayConfig) (dataTypes : Registry) (queue : PacketQueue) (bus : β)
    (metrics : Metrics) :
    StrandsClients [] (Gateway.fresh config dataTypes queue bus metrics) :=
  ⟨(fun _ _ h => nomatch h), fun _ _ => List.not_mem_nil,
    fun _ _ => ⟨List.not_mem_nil, List.not_mem_nil⟩⟩

end StrandsClients

/-- A client on the machine of the gateway itself. -/
def localClient : SocketAddress :=
  ⟨Host.localhost, 40000⟩

/-- A client on the machine of the gateway itself is let in, and gets a reader. -/
theorem exists_link_of_localClient [Bus β] (g : Gateway β)
    (haccepting : g.acceptLoop = .accepting) :
    ∃ c link, (g.run [.connect (some localClient)]).2.links.get? c = some link := by
  have hallows : g.allowList.allows localClient.ip = true := by
    simp [AllowList.allows, localClient, Host.localhost, Ip.canonical, Ip.isLoopback,
      Ipv4.isLoopback]
  have hjudge : g.allowList.judge (some localClient) = .allowed localClient := by
    rw [AllowList.judge, if_pos hallows]
  have hconnect : (g.run [.connect (some localClient)]).2 = g.withConnection localClient := by
    simp only [run, step, if_pos haccepting, accept, hjudge]
    rfl
  refine ⟨g.links.toList.length, g.newLink localClient, ?_⟩
  rw [hconnect, get?_withConnection, if_pos rfl]

end Gateway

/-! ## What breaks down -/

namespace GatewayConfig

variable {β : Type} [Bus β]

/-- An activity of a gateway with a configuration breaks down: its start, or a reader in the course
    of a schedule. -/
inductive BreaksDown (c : GatewayConfig) (host : Host) (dataTypes : Registry) (bus : β)
    (metrics : Metrics) : Prop where
  | start : Gateway.start host c dataTypes bus metrics = .error .queueTooLarge →
      BreaksDown c host dataTypes bus metrics
  | reader {started : List GatewayEvent} {g : Gateway β} (schedule : List GatewayMove)
      {x : ConnectionId} {link : Link} :
      Gateway.start host c dataTypes bus metrics = .ok (started, g) →
      (g.run schedule).2.links.get? x = some link → link.reader = .crashed →
      BreaksDown c host dataTypes bus metrics

variable {c : GatewayConfig} {host : Host} {dataTypes : Registry} {bus : β} {metrics : Metrics}

/-- A usable configuration breaks a gateway down exactly if it asks for too much, provided that the
    gateway can listen at all. -/
theorem breaksDown_iff (hproblem : c.problem? = none)
    (hlistens : (host.listenAddress? c.listenAddr).isSome = true) :
    c.BreaksDown host dataTypes bus metrics ↔ c.isRunnable = false := by
  have hcapacity := (problem?_eq_none_iff.1 hproblem).1
  have hrunnable : c.isRunnable = false ↔
      PacketQueue.maxCapacity < c.queueCapacity ∨ maxBufferSize < c.readBufferSize := by
    rw [isRunnable, Nat.max_eq_left hcapacity, Bool.and_eq_false_iff, decide_eq_false_iff_not,
      decide_eq_false_iff_not, Nat.not_le, Nat.not_le]
  have htooLarge := Gateway.start_eq_queueTooLarge_iff host dataTypes bus metrics hproblem
  rw [hrunnable]
  constructor
  · rintro (hstart | ⟨schedule, hstart, hlink, hcrashed⟩)
    · exact .inl (htooLarge.1 hstart)
    · obtain ⟨-, -, -, queue, -, rfl⟩ := Gateway.start_eq_ok_iff.1 hstart
      have hbreaks := Gateway.BreaksOverBuffers.fresh c dataTypes queue bus metrics
      exact .inr (((hbreaks.run schedule).crashed_iff _ _ hlink).1 hcrashed)
  · intro hasks
    -- the queue is made before there are readers, which matter only if there is a queue
    by_cases hqueue : PacketQueue.maxCapacity < c.queueCapacity
    · exact .start (htooLarge.2 hqueue)
    · have hmade : PacketQueue.ofCapacity? c.queueCapacity = some ⟨c.queueCapacity, [], false⟩ := by
        rw [PacketQueue.ofCapacity?, Nat.max_eq_left hcapacity, if_pos (Nat.not_lt.1 hqueue)]
      let g := Gateway.fresh c dataTypes ⟨c.queueCapacity, [], false⟩ bus metrics
      have hstart : Gateway.start host c dataTypes bus metrics =
          .ok ([.entered .stopped, .entered .starting, .entered .running], g) :=
        Gateway.start_eq_ok_iff.2 ⟨hproblem, hlistens, rfl, _, hmade, rfl⟩
      have hbreaks : Gateway.BreaksOverBuffers c g := .fresh c dataTypes _ bus metrics
      obtain ⟨x, link, hlink⟩ := Gateway.exists_link_of_localClient g rfl
      exact .reader _ hstart hlink
        (((hbreaks.run _).crashed_iff x link hlink).2 (hasks.resolve_left hqueue))

/-- Exactly the sizes that are checked are accepted, from an environment as from a JSON text. With
    an accepted configuration a gateway breaks down at its start exactly if there is no queue with
    the capacity, and if it can listen, then something of it breaks down exactly if the
    configuration cannot be run. If there are no buffers of the size, all its clients are stranded
    in every run. -/
theorem accepted_breaksDown_iff (host : Host) (dataTypes : Registry) (bus : β) (metrics : Metrics) :
    (∀ capacity size, (∃ env c, (ConfigSource.environment env).Yields c ∧
      c.queueCapacity = capacity ∧ c.readBufferSize = size) ↔ PassChecks capacity size) ∧
    (∀ capacity size, (∃ s c, (ConfigSource.jsonText s).Yields c ∧
      c.queueCapacity = capacity ∧ c.readBufferSize = size) ↔ PassChecks capacity size) ∧
    ∀ source c, ConfigSource.Yields source c →
      (Gateway.start host c dataTypes bus metrics = .error .queueTooLarge ↔
        PacketQueue.maxCapacity < c.queueCapacity) ∧
      ((host.listenAddress? c.listenAddr).isSome = true →
        (c.BreaksDown host dataTypes bus metrics ↔ c.isRunnable = false)) ∧
      ∀ started g, Gateway.start host c dataTypes bus metrics = .ok (started, g) →
        maxBufferSize < c.readBufferSize →
        ∀ schedule, Gateway.StrandsClients (g.run schedule).1 (g.run schedule).2 := by
  refine ⟨ConfigSource.exists_environment_yields_iff, ConfigSource.exists_jsonText_yields_iff, ?_⟩
  intro source c h
  have hproblem := h.problem?_eq_none
  refine ⟨Gateway.start_eq_queueTooLarge_iff host dataTypes bus metrics hproblem,
    breaksDown_iff hproblem, ?_⟩
  intro started g hstart htooLarge schedule
  obtain ⟨-, -, -, queue, -, rfl⟩ := Gateway.start_eq_ok_iff.1 hstart
  exact (Gateway.StrandsClients.fresh c dataTypes queue bus metrics).run htooLarge
    (.fresh c dataTypes queue bus metrics) schedule

/-- A configuration with the default capacity and buffers one byte greater than there can be. -/
def greatBuffers : GatewayConfig :=
  { default with readBufferSize := maxBufferSize + 1 }

theorem start_greatBuffers :
    Gateway.start .standalone greatBuffers .reference MemoryBus.initial .zero =
      .ok ([.entered .stopped, .entered .starting, .entered .running],
        .fresh greatBuffers .reference ⟨1024, [], false⟩ .initial .zero) :=
  Gateway.start_eq_ok_iff.2 ⟨rfl, by decide +kernel, rfl, _, if_pos (by decide), rfl⟩

/-- Such a configuration is accepted from its text, and the gateway starts and strands its first
    client. -/
theorem accepted_breaksDown_iff_greatBuffers :
    ∃ (started : List GatewayEvent) (g : Gateway MemoryBus) (schedule : List GatewayMove),
      (ConfigSource.jsonText greatBuffers.jsonText).Yields greatBuffers ∧
        Gateway.start .standalone greatBuffers .reference .initial .zero = .ok (started, g) ∧
        (g.run schedule).2.openConnections = 1 ∧
        greatBuffers.BreaksDown .standalone .reference MemoryBus.initial .zero ∧
        Gateway.StrandsClients (g.run schedule).1 (g.run schedule).2 := by
  have hyields : (ConfigSource.jsonText greatBuffers.jsonText).Yields greatBuffers :=
    ConfigSource.yields_jsonText ⟨⟨by decide, by decide⟩, by decide, by decide⟩
  obtain ⟨-, hbreaks, hstrands⟩ :=
    (accepted_breaksDown_iff .standalone .reference MemoryBus.initial .zero).2.2 _ _ hyields
  exact ⟨_, _, [.connect (some Gateway.localClient)], hyields, start_greatBuffers,
    by decide +kernel, (hbreaks (by decide +kernel)).2 (by decide +kernel),
    hstrands _ _ start_greatBuffers (by decide) _⟩

/-- A capacity is accepted from a JSON text with which a gateway breaks down at its start, and a
    size of buffers from an environment with which the reader of a client breaks down. The
    connection of this client stays in the registry when the client hangs up. -/
theorem accepted_but_breaksDown :
    (∃ c, ofJsonText "\x7b\"queue_capacity\":2305843009213693952\x7d" = .ok c ∧
      Gateway.start .standalone c .reference MemoryBus.initial .zero = .error .queueTooLarge) ∧
    ∃ (s : Settings) (started : List GatewayEvent) (g g' : Gateway MemoryBus) (link : Link),
      Settings.ofEnvironment (fun name =>
        if name = "KNX_LINK_READ_BUFFER_SIZE" then some "9223372036854775808" else none) = .ok s ∧
      Gateway.start .standalone s.toGatewayConfig .reference .initial .zero = .ok (started, g) ∧
      (g.run [.connect (some Gateway.localClient), .readEnd 0, .leave 0, .leave 0]).2 = g' ∧
      g'.links.get? 0 = some link ∧ link.reader = .crashed ∧ link.isOpen = true ∧
      g'.openConnections = 1 := by
  let s : Settings :=
    ⟨"0.0.0.0", 3672, [], true, 1024, maxBufferSize + 1, ⟨.tunneling, false, none, 3671⟩⟩
  let g : Gateway MemoryBus := .fresh greatBuffers .reference ⟨1024, [], false⟩ .initial .zero
  have hconfig : s.toGatewayConfig = greatBuffers := by decide +kernel
  have hstart : Gateway.start .standalone s.toGatewayConfig .reference MemoryBus.initial .zero =
      .ok ([.entered .stopped, .entered .starting, .entered .running], g) := by
    rw [hconfig]
    exact start_greatBuffers
  refine ⟨⟨{ default with queueCapacity := PacketQueue.maxCapacity + 1 }, by decide +kernel, rfl⟩,
    s, _, g, _, ⟨0, Gateway.localClient, true, true, .crashed⟩, by decide +kernel, hstart, rfl, ?_,
    rfl, rfl, ?_⟩ <;> decide +kernel

end GatewayConfig

end KnxGateway
