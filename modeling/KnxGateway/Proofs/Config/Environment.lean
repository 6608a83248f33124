import KnxGateway.Config.Settings
import KnxGateway.Proofs.Text.Reading

set_option autoImplicit false

/-! # Environments that are accepted

Six of the ten variables can hold a value that cannot be used. They are checked one after the
other, and the first that is at fault is told. An environment in which none is at fault is
accepted, and what is then read is a usable configuration of a gateway, so that the checks of the
environment and those of a configuration never disagree.

A value is read without the blanks around it, and nothing but the ten variables is looked at. -/

namespace KnxGateway

open Text

/-! ## What a variable accepts -/

namespace SettingKey

/-- The variables whose values are checked, in the order of the checks. -/
def checked : List SettingKey :=
  [serverPort, queueCapacity, readBufferSize, knxMode, knxAddress, knxPort]

/-- What a variable accepts as its value, blanks around it left out. -/
def Accepts : SettingKey → List Char → Prop
  | serverPort, s => ∃ n ≤ maxUInt16, IsNumeral s n
  | queueCapacity, s => ∃ n ≤ maxUInt64, n ≠ 0 ∧ IsNumeral s n
  | readBufferSize, s => ∃ n ≤ maxUInt64, 16 ≤ n ∧ IsNumeral s n
  | knxMode, s => Spells "tunneling".toList s ∨ Spells "routing".toList s
  | knxAddress, s => ∃ ip, Ip.ofText? (String.ofList s) = some ip
  | knxPort, s => ∃ n ≤ maxUInt16, IsNumeral s n
  | serverAddr, _ | allowedAddresses, _ | notifyRejected, _ | knxNat, _ => True

end SettingKey

namespace Environment

variable {env : Environment} {key : SettingKey} {α β : Type}

/-- A variable is unset when it has no value or a blank one. -/
def IsUnset (value : Option String) : Prop :=
  ∀ s, value = some s → isAllBlank s.toList = true

/-- A variable is at fault when it is set and does not accept its value. -/
def AtFault (env : Environment) (key : SettingKey) : Prop :=
  ∃ s, env key.name = some s ∧ isAllBlank s.toList = false ∧ ¬key.Accepts (trim s.toList)

/-- Two values that say the same: both are unset, or the second is the first with blanks around
    it. -/
inductive SaysSame : Option String → Option String → Prop where
  | unset {v w : Option String} : IsUnset v → IsUnset w → SaysSame v w
  | padded (s : String) {before after : List Char} : isAllBlank before = true →
      isAllBlank after = true → SaysSame (some s) (some (String.ofList (before ++ s.toList ++ after)))

/-! ## Values -/

theorem value?_eq (env : Environment) (key : SettingKey) :
    env.value? key =
      (env key.name).bind fun s =>
        if isAllBlank s.toList = true then none else some (trimmed s) := by
  have hblank : ∀ s : String, (trimmed s).isEmpty = true ↔ isAllBlank s.toList = true := by
    intro s
    rw [isAllBlank_iff_trim_eq_nil, ← toList_trimmed, String.toList_eq_nil_iff, String.isEmpty_iff]
  unfold value?
  cases env key.name with
  | none => rfl
  | some s => simp only [hblank, Option.bind_some]

theorem value?_eq_none_iff : env.value? key = none ↔ IsUnset (env key.name) := by
  rw [value?_eq]
  cases env key.name with
  | none => simp [IsUnset]
  | some s => simp [IsUnset]

theorem value?_eq_some_iff {v : String} :
    env.value? key = some v ↔
      ∃ s, env key.name = some s ∧ isAllBlank s.toList = false ∧ trimmed s = v := by
  rw [value?_eq]
  cases env key.name with
  | none => simp
  | some s => simp

theorem trim_of_value? {v : String} (h : env.value? key = some v) : trim v.toList = v.toList := by
  obtain ⟨s, -, -, rfl⟩ := value?_eq_some_iff.1 h
  rw [toList_trimmed, trim_trim]

theorem not_atFault_of_value? (h : env.value? key = none) : ¬env.AtFault key := by
  rintro ⟨s, hs, hblank, -⟩
  have hunset := value?_eq_none_iff.1 h s hs
  rw [hblank] at hunset
  cases hunset

/-- A variable is at fault through the value that is read from it. -/
theorem atFault_iff {v : String} (h : env.value? key = some v) :
    env.AtFault key ↔ ¬key.Accepts v.toList := by
  obtain ⟨s, hs, hblank, rfl⟩ := value?_eq_some_iff.1 h
  rw [toList_trimmed]
  constructor
  · rintro ⟨t, ht, -, hnot⟩
    obtain rfl : s = t := Option.some.inj (hs.symm.trans ht)
    exact hnot
  · intro hnot
    exact ⟨s, hs, hblank, hnot⟩

/-- Blanks around a value are not read. -/
theorem value?_congr {other : Environment} (h : SaysSame (env key.name) (other key.name)) :
    other.value? key = env.value? key := by
  generalize hv : env key.name = v, hw : other key.name = w at h
  cases h with
  | unset hunset hunset' =>
    have hnone : env.value? key = none := value?_eq_none_iff.2 (hv ▸ hunset)
    have hnone' : other.value? key = none := value?_eq_none_iff.2 (hw ▸ hunset')
    rw [hnone, hnone']
  | padded s hbefore hafter =>
    have htrim := trim_padded hbefore hafter s.toList
    simp only [value?_eq, hv, hw, Option.bind_some, isAllBlank_iff_trim_eq_nil, trimmed,
      String.toList_ofList, htrim]

/-! ## Checks one after the other -/

/-- The outcome of checking variables in order: a value if none is at fault, and otherwise an
    error that names the first that is. -/
inductive Checks (env : Environment) : List SettingKey → Except SettingsError α → Prop where
  | passed {keys : List SettingKey} (x : α) : (∀ key ∈ keys, ¬env.AtFault key) →
      Checks env keys (.ok x)
  | failed (before : List SettingKey) {key : SettingKey} (after : List SettingKey)
      (value : String) : (∀ other ∈ before, ¬env.AtFault other) → env.AtFault key →
      Checks env (before ++ key :: after) (.error ⟨key, value⟩)

namespace Checks

theorem pure (x : α) : Checks env [] (.ok x) :=
  .passed x (by simp)

/-- One check in front of others. -/
theorem cons {later : List SettingKey} {x : Except SettingsError α}
    {f : α → Except SettingsError β} (hx : Checks env [key] x)
    (hf : ∀ a, Checks env later (f a)) : Checks env (key :: later) (x >>= f) := by
  generalize hkeys : [key] = keys at hx
  cases hx with
  | failed before after value hbefore hfault =>
    cases before with
    | nil =>
      cases hkeys
      exact .failed [] later value (by simp) hfault
    | cons other before => simp at hkeys
  | passed a hkey =>
    subst hkeys
    show Checks env (key :: later) (f a)
    generalize hb : f a = b
    have hlater := hb ▸ hf a
    cases hlater with
    | passed b hlater =>
      exact .passed b fun other hother => (List.mem_cons.1 hother).elim
        (fun heq => heq ▸ hkey key (by simp)) (hlater other)
    | failed before after value hbefore hfault =>
      exact .failed (key :: before) after value
        (fun other hother => (List.mem_cons.1 hother).elim
          (fun heq => heq ▸ hkey key (by simp)) (hbefore other)) hfault

theorem one_failed (value : String) (h : env.AtFault key) :
    Checks env [key] (.error ⟨key, value⟩ : Except SettingsError α) :=
  .failed [] [] value (by simp) h

theorem one_passed (x : α) (h : ¬env.AtFault key) : Checks env [key] (.ok x) :=
  .passed x (by simpa using h)

theorem exists_ok_iff {keys : List SettingKey} {x : Except SettingsError α}
    (h : Checks env keys x) : (∃ a, x = .ok a) ↔ ∀ key ∈ keys, ¬env.AtFault key := by
  cases h with
  | passed a hkeys => exact ⟨fun _ => hkeys, fun _ => ⟨a, rfl⟩⟩
  | failed before after value hbefore hfault =>
    constructor
    · rintro ⟨a, ha⟩
      cases ha
    · intro hkeys
      exact absurd hfault (hkeys _ (by simp))

theorem exists_error_iff {keys : List SettingKey} {x : Except SettingsError α}
    (h : Checks env keys x) (key : SettingKey) :
    (∃ value, x = .error ⟨key, value⟩) ↔
      ∃ before after, keys = before ++ key :: after ∧ (∀ other ∈ before, ¬env.AtFault other) ∧
        env.AtFault key := by
  constructor
  · rintro ⟨value, rfl⟩
    cases h with
    | failed before after _ hbefore hfault => exact ⟨before, after, rfl, hbefore, hfault⟩
  · rintro ⟨before, after, hkeys, hbefore, hfault⟩
    cases h with
    | passed a hnone => exact absurd hfault (hnone key (by simp [hkeys]))
    | failed before' after' value hbefore' hfault' =>
      -- two variables that are both the first at fault are one
      refine ⟨value, ?_⟩
      rcases List.append_eq_append_iff.1 hkeys with ⟨gap, hgap, hrest⟩ | ⟨gap, hgap, hrest⟩
      · cases gap with
        | nil =>
          cases hrest
          rfl
        | cons other gap =>
          cases hrest
          exact absurd hfault' (hbefore _ (by simp [hgap]))
      · cases gap with
        | nil =>
          cases hrest
          rfl
        | cons other gap =>
          cases hrest
          exact absurd hfault (hbefore' _ (by simp [hgap]))

end Checks

/-! ## Each reader checks its variable -/

/-- A reader that accepts what the variable accepts checks the variable. -/
theorem checks_read {parse? : String → Option α} (default : α)
    (hparse : ∀ v, env.value? key = some v → ((∃ x, parse? v = some x) ↔ key.Accepts v.toList)) :
    Checks env [key] (env.read key parse? default) := by
  unfold read
  cases hv : env.value? key with
  | none => exact .one_passed default (not_atFault_of_value? hv)
  | some v =>
    have hfault := atFault_iff hv
    dsimp only
    cases hx : parse? v with
    | some x => exact .one_passed x fun h => hfault.1 h ((hparse v hv).1 ⟨x, hx⟩)
    | none =>
      refine .one_failed v (hfault.2 fun haccepts => ?_)
      obtain ⟨x, hx'⟩ := (hparse v hv).2 haccepts
      rw [hx] at hx'
      cases hx'

theorem exists_readUnsigned?_iff {bound : Nat} {s : List Char} :
    (∃ n, readUnsigned? bound s = some n) ↔ ∃ n ≤ bound, IsNumeral s n := by
  simp only [readUnsigned?_eq_some_iff, and_comm]

/-- A port is read from a numeral of 16 bits. -/
theorem checks_readNat {bound : Nat} (default : Nat)
    (haccepts : ∀ s, key.Accepts s ↔ ∃ n ≤ bound, IsNumeral s n) :
    Checks env [key] (env.readNat key bound default) :=
  checks_read default fun v _ => by rw [exists_readUnsigned?_iff, haccepts]

/-- A size is read from a numeral that is not too small. -/
theorem checks_readSize {least default : Nat} (hdefault : least ≤ default)
    (haccepts : ∀ s, key.Accepts s ↔ ∃ n ≤ maxUInt64, least ≤ n ∧ IsNumeral s n) :
    Checks env [key] (env.readSize key least default) := by
  unfold readSize readNat read
  cases hv : env.value? key with
  | none =>
    dsimp only
    rw [if_neg (Nat.not_lt.2 hdefault)]
    exact .one_passed default (not_atFault_of_value? hv)
  | some v =>
    have hfault := atFault_iff hv
    dsimp only
    cases hx : readUnsigned? maxUInt64 v.toList with
    | none =>
      refine .one_failed v (hfault.2 fun h => ?_)
      obtain ⟨n, hn, -, hnumeral⟩ := (haccepts _).1 h
      rw [readUnsigned?_eq_some_iff.2 ⟨hnumeral, hn⟩] at hx
      cases hx
    | some n =>
      obtain ⟨hnumeral, hn⟩ := readUnsigned?_eq_some_iff.1 hx
      dsimp only
      by_cases hleast : n < least
      · rw [if_pos hleast]
        refine .one_failed _ (hfault.2 fun h => ?_)
        obtain ⟨m, hm, hle, hnumeral'⟩ := (haccepts _).1 h
        have hmn := readUnsigned?_eq_some_iff.2 ⟨hnumeral', hm⟩
        rw [hx] at hmn
        cases hmn
        omega
      · rw [if_neg hleast]
        exact .one_passed n fun h =>
          hfault.1 h ((haccepts _).2 ⟨n, hn, Nat.not_lt.1 hleast, hnumeral⟩)

/-- A mode is read from its name in any letter case. -/
theorem exists_parse_mode_iff {v : String} (htrim : trim v.toList = v.toList) :
    (∃ m, (KnxMode.parse v).toOption = some m) ↔ SettingKey.knxMode.Accepts v.toList := by
  have htunneling : String.ofList (lower v.toList) = KnxMode.tunneling.text ↔
      Spells "tunneling".toList v.toList := by
    rw [← lower_eq_iff (by simp), ← String.toList_inj, String.toList_ofList]
    rfl
  have hrouting : String.ofList (lower v.toList) = KnxMode.routing.text ↔
      Spells "routing".toList v.toList := by
    rw [← lower_eq_iff (by simp), ← String.toList_inj, String.toList_ofList]
    rfl
  simp only [KnxMode.parse, htrim, SettingKey.Accepts, ← htunneling, ← hrouting]
  by_cases htunnel : String.ofList (lower v.toList) = KnxMode.tunneling.text
  · simp [htunnel, Except.toOption]
  · by_cases hroute : String.ofList (lower v.toList) = KnxMode.routing.text
    · rw [if_neg htunnel, if_pos hroute]
      simp [hroute, Except.toOption]
    · simp [htunnel, hroute, Except.toOption]

/-- The checks of all settings. -/
theorem checks_ofEnvironment (env : Environment) :
    Checks env SettingKey.checked (Settings.ofEnvironment env) := by
  unfold SettingKey.checked
  refine .cons (checks_readNat 3672 fun s => Iff.rfl) fun serverPort => ?_
  refine .cons (checks_readSize (by decide) fun s => ?_)
    fun queueCapacity => ?_
  · simp only [SettingKey.Accepts, Nat.one_le_iff_ne_zero]
  refine .cons (checks_readSize (by decide) fun s => Iff.rfl)
    fun readBufferSize => ?_
  refine .cons (checks_read _ fun v hv => ?_) fun mode => ?_
  · exact exists_parse_mode_iff (trim_of_value? hv)
  refine .cons (checks_read _ fun v hv => ?_) fun address => ?_
  · simp [SettingKey.Accepts]
  refine .cons (checks_readNat 3671 fun s => Iff.rfl) fun port => ?_
  exact .pure _

end Environment

/-! ## Settings -/

/-- A computation with a result goes through a result of its first part. -/
theorem Except.exists_of_bind_eq_ok {ε α β : Type} {x : Except ε α} {f : α → Except ε β}
    {b : β} (h : x >>= f = .ok b) : ∃ a, x = .ok a ∧ f a = .ok b := by
  cases x with
  | error e => cases h
  | ok a => exact ⟨a, rfl, h⟩

namespace Settings

open Environment

/-- Where the fields of a configuration in the environment come from. -/
theorem reads_of_ofEnvironment {env : Environment} {s : Settings} (h : ofEnvironment env = .ok s) :
    s.allowedAddresses = env.readList .allowedAddresses ∧
      env.readSize .queueCapacity 1 1024 = .ok s.queueCapacity ∧
      env.readSize .readBufferSize minReadBufferSize 512 = .ok s.readBufferSize := by
  obtain ⟨serverPort, -, h⟩ := Except.exists_of_bind_eq_ok h
  obtain ⟨queueCapacity, hqueue, h⟩ := Except.exists_of_bind_eq_ok h
  obtain ⟨readBufferSize, hbuffer, h⟩ := Except.exists_of_bind_eq_ok h
  obtain ⟨mode, -, h⟩ := Except.exists_of_bind_eq_ok h
  obtain ⟨address, -, h⟩ := Except.exists_of_bind_eq_ok h
  obtain ⟨port, -, h⟩ := Except.exists_of_bind_eq_ok h
  cases h
  exact ⟨rfl, hqueue, hbuffer⟩

theorem le_of_readSize {env : Environment} {key : SettingKey} {least default n : Nat}
    (h : env.readSize key least default = .ok n) : least ≤ n := by
  unfold readSize at h
  split at h
  · cases h
  · split at h
    · cases h
    · next hle =>
      cases h
      exact Nat.not_lt.1 hle

/-- Accepted settings hold a configuration without a problem. -/
theorem problem?_toGatewayConfig {env : Environment} {s : Settings}
    (h : ofEnvironment env = .ok s) : s.toGatewayConfig.problem? = none := by
  obtain ⟨-, hqueue, hbuffer⟩ := reads_of_ofEnvironment h
  have hcapacity : s.queueCapacity ≠ 0 := Nat.one_le_iff_ne_zero.1 (le_of_readSize hqueue)
  have hsize : ¬s.readBufferSize < minReadBufferSize := Nat.not_lt.2 (le_of_readSize hbuffer)
  simp [GatewayConfig.problem?, toGatewayConfig, hcapacity, hsize]

/-- Environments that say the same in the ten variables have the same settings. -/
theorem ofEnvironment_congr {env other : Environment}
    (h : ∀ key : SettingKey, SaysSame (env key.name) (other key.name)) :
    ofEnvironment other = ofEnvironment env := by
  have hvalue : ∀ key, other.value? key = env.value? key := fun key => value?_congr (h key)
  simp only [ofEnvironment, readSize, readNat, Environment.read, readBool, readList, hvalue]

/-- An environment is accepted exactly when no variable is at fault, and else the error names the
    first that is, in the order of the checks. Nothing changes with blanks around values, with a
    blank value in place of none, and with variables other than the ten. Accepted settings always
    hold a usable configuration of a gateway. -/
theorem ofEnvironment_exact (env : Environment) :
    ((∃ s, ofEnvironment env = .ok s) ↔ ∀ key ∈ SettingKey.checked, ¬env.AtFault key) ∧
    (∀ key, (∃ value, ofEnvironment env = .error ⟨key, value⟩) ↔
      ∃ before after, SettingKey.checked = before ++ key :: after ∧
        (∀ other ∈ before, ¬env.AtFault other) ∧ env.AtFault key) ∧
    (∀ other : Environment, (∀ key : SettingKey, SaysSame (env key.name) (other key.name)) →
      ofEnvironment other = ofEnvironment env) ∧
    ∀ s, ofEnvironment env = .ok s → s.toGatewayConfig.problem? = none := by
  have hchecks := checks_ofEnvironment env
  refine ⟨hchecks.exists_ok_iff, hchecks.exists_error_iff, ?_, ?_⟩
  · intro other hsame
    exact ofEnvironment_congr hsame
  · intro s hs
    exact problem?_toGatewayConfig hs

/-- A port beyond the bound does not matter while a capacity of zero is at fault, whatever blanks
    stand around it. -/
theorem ofEnvironment_exact_two_faults :
    ∃ value, ofEnvironment (fun name =>
      if name = "KNX_LINK_KNX_PORT" then some "70000"
      else if name = "KNX_LINK_QUEUE_CAPACITY" then some " +0\t" else none) =
        .error ⟨.queueCapacity, value⟩ := by
  refine ((ofEnvironment_exact _).2.1 .queueCapacity).2 ⟨[.serverPort], _, rfl, ?_, ?_⟩
  · simp [AtFault, SettingKey.name]
  · refine ⟨" +0\t", rfl, by decide, ?_⟩
    rintro ⟨n, -, hne, digits, hs, -, -, rfl⟩
    have htrim : trim " +0\t".toList = ['+', '0'] := by decide
    rw [htrim] at hs
    rcases hs with rfl | hs
    · exact hne (by decide)
    · obtain rfl : ['0'] = digits := (List.cons.inj hs).2
      exact hne (by decide)

end Settings

end KnxGateway
