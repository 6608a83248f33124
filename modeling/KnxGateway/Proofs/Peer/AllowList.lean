import KnxGateway.Proofs.Config.Environment
import KnxGateway.Proofs.Peer.Notation

set_option autoImplicit false

/-! # Who is admitted

An entry of the allow-list admits by its text alone. Texts of addresses hold no blanks and no
commas, and no two addresses share one, so a list of addresses admits those that it names and
nobody else, however the texts are padded, ordered or repeated, and whether they are given one by
one or joined by commas in the environment. Clients of the gateway's own machine need no entry. -/

namespace KnxGateway

open Text

/-! ## Entries -/

namespace AllowList

theorem mem_entries_ofTexts {texts : List String} {entry : String} :
    entry ∈ (ofTexts texts).entries ↔ entry ≠ "" ∧ ∃ t ∈ texts, trimmed t = entry := by
  simp only [ofTexts, List.mem_eraseDups, List.mem_filter, List.mem_map, Bool.not_eq_true',
    String.isEmpty_eq_false_iff]
  exact And.comm

theorem text_ne_empty (ip : Ip) : ip.text ≠ "" := by
  intro h
  have hdisplay := congrArg String.toList h
  simp only [Ip.text, String.toList_ofList] at hdisplay
  exact ip.display_ne_nil hdisplay

/-- An address is admitted for its own sake or for an entry, which is its text or that of its
    canonical form. -/
theorem allows_ofTexts_iff (texts : List String) (ip : Ip) :
    (ofTexts texts).allows ip = true ↔
      ip.canonical.isLoopback = true ∨
        ∃ t ∈ texts, trimmed t = ip.canonical.text ∨ trimmed t = ip.text := by
  simp only [allows, Bool.or_eq_true, List.contains_eq_mem, decide_eq_true_eq,
    mem_entries_ofTexts, ne_eq, text_ne_empty, not_false_eq_true, true_and, or_assoc]
  rw [← exists_or]
  simp only [← and_or_left]

theorem allows_of_subset {texts more : List String} (h : texts ⊆ more) {ip : Ip}
    (hallows : (ofTexts texts).allows ip = true) : (ofTexts more).allows ip = true := by
  rw [allows_ofTexts_iff] at hallows ⊢
  exact hallows.imp_right fun ⟨t, ht, htext⟩ => ⟨t, h ht, htext⟩

theorem judge_eq_allowed_iff {l : AllowList} {remote : Option SocketAddress}
    {peer : SocketAddress} :
    l.judge remote = .allowed peer ↔ remote = some peer ∧ l.allows peer.ip = true := by
  cases remote with
  | none => simp [judge]
  | some other =>
    simp only [judge, Option.some.injEq]
    constructor
    · intro hjudge
      split at hjudge
      · next hallows =>
        cases hjudge
        exact ⟨rfl, hallows⟩
      · cases hjudge
    · rintro ⟨rfl, hallows⟩
      exact if_pos hallows

/-- Whoever is allowed stays so when entries are added. -/
theorem judge_of_subset {texts more : List String} (h : texts ⊆ more)
    {remote : Option SocketAddress} {peer : SocketAddress}
    (hjudge : (ofTexts texts).judge remote = .allowed peer) :
    (ofTexts more).judge remote = .allowed peer := by
  rw [judge_eq_allowed_iff] at hjudge ⊢
  exact hjudge.imp_right (allows_of_subset h)

end AllowList

/-! ## Lists of addresses -/

/-- A text is an address with blanks around it. -/
def Names (t : String) (ip : Ip) : Prop :=
  ∃ before after, isAllBlank before = true ∧ isAllBlank after = true ∧
    t.toList = before ++ ip.display ++ after

/-- The texts are those of the given addresses: each text is blank or names one of them, and each
    of them is named. Nothing is said about blanks around the texts, their order or
    repetitions. -/
structure Lists (texts : List String) (ips : List Ip) : Prop where
  sound : ∀ t ∈ texts, isAllBlank t.toList = true ∨ ∃ ip ∈ ips, Names t ip
  complete : ∀ ip ∈ ips, ∃ t ∈ texts, Names t ip

theorem Names.trimmed_eq {t : String} {ip : Ip} (h : Names t ip) : trimmed t = ip.text := by
  obtain ⟨before, after, hbefore, hafter, ht⟩ := h
  have hdisplay : trim ip.display = ip.display := trim_of_no_blank fun c hc =>
    Ip.isBlank_of_isNotation (Ip.isNotation_of_mem_display hc)
  rw [trimmed, ht, trim_padded hbefore hafter, hdisplay, Ip.text]

theorem Names.not_mem_comma {t : String} {ip : Ip} (h : Names t ip) : ',' ∉ t.toList := by
  obtain ⟨before, after, hbefore, hafter, ht⟩ := h
  have hdisplay : ',' ∉ ip.display := fun hc =>
    Ip.ne_comma_of_isNotation (Ip.isNotation_of_mem_display hc) rfl
  have hcomma : isBlank ',' = false := by decide
  simp [ht, hdisplay, not_mem_of_isAllBlank hcomma hbefore, not_mem_of_isAllBlank hcomma hafter]

variable {texts : List String} {ips : List Ip}

theorem Lists.not_mem_comma (h : Lists texts ips) {t : String} (ht : t ∈ texts) :
    ',' ∉ t.toList := by
  rcases h.sound t ht with hblank | ⟨ip, -, hnames⟩
  · exact not_mem_of_isAllBlank (by decide) hblank
  · exact hnames.not_mem_comma

/-- The text of an address is an entry exactly when the address is one of the list. -/
theorem Lists.exists_trimmed_iff (h : Lists texts ips) (ip : Ip) :
    (∃ t ∈ texts, trimmed t = ip.text) ↔ ip ∈ ips := by
  constructor
  · rintro ⟨t, ht, htext⟩
    rcases h.sound t ht with hblank | ⟨named, hmem, hnames⟩
    · rw [trimmed, trim_eq_nil hblank] at htext
      exact absurd htext.symm (AllowList.text_ne_empty ip)
    · rw [hnames.trimmed_eq, Ip.text_inj] at htext
      exact htext ▸ hmem
  · intro hip
    obtain ⟨t, ht, hnames⟩ := h.complete ip hip
    exact ⟨t, ht, hnames.trimmed_eq⟩

theorem Lists.allows_iff (h : Lists texts ips) (ip : Ip) :
    (AllowList.ofTexts texts).allows ip = true ↔
      ip.canonical.isLoopback = true ∨ ip.canonical ∈ ips ∨ ip ∈ ips := by
  rw [AllowList.allows_ofTexts_iff, ← h.exists_trimmed_iff, ← h.exists_trimmed_iff, ← exists_or]
  simp only [← and_or_left]

/-! ## Lists in the environment -/

theorem Environment.mem_splitList_iff {value entry : String} :
    entry ∈ splitList value ↔
      entry ≠ "" ∧ entry.toList ∈ (value.toList.splitOn ',').map trim := by
  simp only [splitList, List.mem_map (f := String.ofList), List.mem_filter, Bool.not_eq_true',
    List.isEmpty_eq_false_iff]
  constructor
  · rintro ⟨piece, ⟨hpiece, hne⟩, rfl⟩
    rw [String.toList_ofList]
    exact ⟨fun h => hne (String.ofList_eq_empty_iff.1 h), hpiece⟩
  · rintro ⟨hne, hpiece⟩
    exact ⟨entry.toList, ⟨hpiece, fun h => hne (String.toList_eq_nil_iff.1 h)⟩,
      String.ofList_toList⟩

/-- The entries of a variable are the pieces of its value between commas. -/
theorem Environment.mem_readList_iff {env : Environment} {key : SettingKey} {value : String}
    (h : env key.name = some value) {entry : String} :
    entry ∈ env.readList key ↔
      entry ≠ "" ∧ entry.toList ∈ (value.toList.splitOn ',').map trim := by
  have hpieces := (map_trim_splitOn_trim (by decide : isBlank ',' = false) value.toList).symm
  simp only [readList, value?, h]
  split
  · next hnone =>
    -- A blank value has one piece, and that is blank.
    split at hnone
    · next hblank =>
      have hnil : trim value.toList = [] := by
        rwa [String.isEmpty_iff, trimmed, String.ofList_eq_empty_iff] at hblank
      rw [hpieces, hnil, List.splitOn_nil]
      simp only [List.not_mem_nil, false_iff, not_and]
      intro hne hmem
      exact hne (String.toList_eq_nil_iff.1 (List.mem_singleton.1 hmem))
    · cases hnone
  · next kept hsome =>
    split at hsome
    · cases hsome
    · cases hsome
      rw [mem_splitList_iff, toList_trimmed, hpieces]

/-- Texts without commas, joined by commas in the environment, make the same entries. -/
theorem AllowList.mem_entries_joined {env : Environment}
    (h : env AllowList.key = some (",".intercalate texts)) (hcomma : ∀ t ∈ texts, ',' ∉ t.toList)
    (entry : String) :
    entry ∈ (ofTexts (env.readList .allowedAddresses)).entries ↔
      entry ∈ (ofTexts texts).entries := by
  have hread := @Environment.mem_readList_iff env .allowedAddresses _ h
  have htrimmed : ∀ t ∈ env.readList .allowedAddresses, trimmed t = t := by
    intro t ht
    obtain ⟨piece, -, hpiece⟩ := List.mem_map.1 (hread.1 ht).2
    rw [trimmed, ← hpiece, trim_trim, hpiece, String.ofList_toList]
  have hleft : entry ∈ (ofTexts (env.readList .allowedAddresses)).entries ↔
      entry ∈ env.readList .allowedAddresses := by
    rw [mem_entries_ofTexts]
    constructor
    · rintro ⟨-, t, ht, rfl⟩
      rwa [htrimmed t ht]
    · intro hentry
      exact ⟨(hread.1 hentry).1, entry, hentry, htrimmed entry hentry⟩
  have hpieces : entry ≠ "" → (entry.toList ∈
      (((",".intercalate texts).toList.splitOn ',').map trim) ↔
        ∃ t ∈ texts, trimmed t = entry) := by
    intro hne
    have hne' : entry.toList ≠ [] := fun h => hne (String.toList_eq_nil_iff.1 h)
    have htext : ∀ t : String, trimmed t = entry ↔ trim t.toList = entry.toList := fun t => by
      rw [← String.toList_inj, toList_trimmed]
    rw [String.toList_intercalate]
    cases texts with
    | nil =>
      simp only [List.map_nil, List.intercalate_nil, List.splitOn_nil, List.map_cons,
        List.mem_singleton, List.not_mem_nil, false_and, exists_false, iff_false]
      exact hne'
    | cons t texts =>
      have hsplit := List.splitOn_intercalate ','
        (List.forall_mem_map.2 hcomma) (List.cons_ne_nil _ _)
      rw [show ",".toList = [','] from rfl, hsplit]
      simp only [List.map_map, List.mem_map, Function.comp_apply, htext]
  rw [hleft, hread, mem_entries_ofTexts]
  exact and_congr_right hpieces

/-- How texts become an allow-list: they are given one by one, or joined by commas in the
    environment. -/
inductive AllowList.GivenBy (texts : List String) : AllowList → Prop where
  | list : GivenBy texts (ofTexts texts)
  | environment {env : Environment} {settings : Settings} :
      env AllowList.key = some (",".intercalate texts) → Settings.ofEnvironment env = .ok settings →
      GivenBy texts (ofTexts settings.toGatewayConfig.allowedAddresses)

theorem Lists.allows_iff_of_givenBy (h : Lists texts ips) {l : AllowList} (hl : l.GivenBy texts)
    (ip : Ip) :
    l.allows ip = true ↔ ip.canonical.isLoopback = true ∨ ip.canonical ∈ ips ∨ ip ∈ ips := by
  cases hl with
  | list => exact h.allows_iff ip
  | environment hvalue hsettings =>
    have hentries := AllowList.mem_entries_joined hvalue fun t ht => h.not_mem_comma ht
    have hread := (Settings.reads_of_ofEnvironment hsettings).1
    rw [← h.allows_iff, Settings.toGatewayConfig, hread]
    simp only [AllowList.allows, List.contains_eq_mem, hentries]

/-- The allow-list admits exactly what it names. An address may connect when its canonical form
    names the machine itself or an entry is its text or that of its canonical form. So the texts
    of a list of addresses, in whatever way they are given, admit clients of the machine itself
    and those that the list names, and every other client is rejected as the one it is. A client
    without an address is admitted by no list, and more entries never turn a client away. -/
theorem AllowList.admits_exactly :
    (∀ texts ip, (ofTexts texts).allows ip = true ↔
      ip.canonical.isLoopback = true ∨
        ∃ t ∈ texts, trimmed t = ip.canonical.text ∨ trimmed t = ip.text) ∧
    (∀ texts ips, Lists texts ips → ∀ l : AllowList, l.GivenBy texts → ∀ peer : SocketAddress,
      l.judge (some peer) =
        if peer.ip.canonical.isLoopback = true ∨ peer.ip.canonical ∈ ips ∨ peer.ip ∈ ips then
          .allowed peer
        else .rejected peer) ∧
    (∀ l : AllowList, l.judge none = .unresolved) ∧
    ∀ texts more, texts ⊆ more → ∀ remote peer,
      (ofTexts texts).judge remote = .allowed peer →
        (ofTexts more).judge remote = .allowed peer := by
  refine ⟨allows_ofTexts_iff, ?_, fun l => rfl, fun texts more h remote peer hjudge =>
    judge_of_subset h hjudge⟩
  intro texts ips h l hl peer
  simp only [judge, h.allows_iff_of_givenBy hl]

/-- A list of two addresses in the environment, with blanks and a blank entry. It admits the IPv6
    shape of the first. -/
theorem AllowList.admits_exactly_listed :
    ∃ l : AllowList, l.GivenBy [" 10.0.0.7", "", "fe80::1\t"] ∧
      l.judge (some ⟨.v6 (.ofIpv4 ⟨10, 0, 0, 7⟩), 40000⟩) =
        .allowed ⟨.v6 (.ofIpv4 ⟨10, 0, 0, 7⟩), 40000⟩ := by
  let env : Environment := fun name =>
    if name = AllowList.key then some (",".intercalate [" 10.0.0.7", "", "fe80::1\t"]) else none
  obtain ⟨settings, hsettings⟩ : ∃ settings, Settings.ofEnvironment env = .ok settings := ⟨_, rfl⟩
  have hgiven : (ofTexts settings.toGatewayConfig.allowedAddresses).GivenBy
      [" 10.0.0.7", "", "fe80::1\t"] := .environment rfl hsettings
  have hlists : Lists [" 10.0.0.7", "", "fe80::1\t"]
      [.v4 ⟨10, 0, 0, 7⟩, .v6 ⟨[0xFE80, 0, 0, 0, 0, 0, 0, 1], rfl⟩] := by
    have hfirst : Names " 10.0.0.7" (.v4 ⟨10, 0, 0, 7⟩) := ⟨[' '], [], by decide, rfl, by decide⟩
    have hsecond : Names "fe80::1\t" (.v6 ⟨[0xFE80, 0, 0, 0, 0, 0, 0, 1], rfl⟩) :=
      ⟨[], ['\t'], rfl, by decide, by decide⟩
    constructor
    · intro t ht
      simp only [List.mem_cons, List.not_mem_nil, or_false] at ht
      rcases ht with rfl | rfl | rfl
      · exact Or.inr ⟨_, by simp, hfirst⟩
      · exact Or.inl (by decide)
      · exact Or.inr ⟨_, by simp, hsecond⟩
    · intro ip hip
      simp only [List.mem_cons, List.not_mem_nil, or_false] at hip
      rcases hip with rfl | rfl
      · exact ⟨_, by simp, hfirst⟩
      · exact ⟨_, by simp, hsecond⟩
  refine ⟨_, hgiven, ?_⟩
  rw [admits_exactly.2.1 _ _ hlists _ hgiven]
  exact if_pos (Or.inr (Or.inl (by decide)))

end KnxGateway
