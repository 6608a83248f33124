import KnxGateway.Proofs.Peer.AllowList

set_option autoImplicit false

/-! # Peers on sockets of both families

A socket that serves both families shows an IPv4 peer in its IPv6 shape. The allow-list judges both
by the canonical form, so that an entry for an IPv4 address, and the rule for the machine itself,
admit the peer either way. An entry is also compared with the address as it was seen. So an entry
that is written in the IPv6 shape admits a peer that is seen in this shape, and only such a one. -/

namespace KnxGateway

open Text

namespace Ip

/-- The IPv6 shape of an IPv4 address is shown with a mark in front of the address. -/
theorem text_v6_ofIpv4 (ip : Ipv4) : (v6 (.ofIpv4 ip)).text = "::ffff:" ++ (v4 ip).text := by
  have hdisplay : (v6 (.ofIpv4 ip)).display = "::ffff:".toList ++ (v4 ip).display := by
    simp only [display, Ipv6.display, Ipv6.toIpv4?_ofIpv4]
  rw [text, text, hdisplay, String.ofList_append, String.ofList_toList]

end Ip

/-! ## Kinds of verdicts -/

/-- A verdict without the peer that it is about. -/
inductive Verdict.Kind where
  | allowed
  | rejected
  | unresolved
deriving DecidableEq

def Verdict.kind : Verdict → Kind
  | .allowed _ => .allowed
  | .rejected _ => .rejected
  | .unresolved => .unresolved

namespace AllowList

variable {texts : List String} {ip : Ipv4}

theorem kind_judge (l : AllowList) (peer : SocketAddress) :
    (l.judge (some peer)).kind = if l.allows peer.ip then .allowed else .rejected := by
  rw [judge]
  split <;> rfl

/-! ## The two shapes of an IPv4 address -/

/-- The texts name an IPv4 address in its IPv6 shape and not as it is, and it is not an address of
    the machine itself. -/
structure ListsOnlyMapped (texts : List String) (ip : Ipv4) : Prop where
  notLoopback : ip.isLoopback = false
  notListed : ∀ t ∈ texts, trimmed t ≠ (Ip.v4 ip).text
  listedMapped : ∃ t ∈ texts, trimmed t = "::ffff:" ++ (Ip.v4 ip).text

/-- An IPv4 address may connect for its own sake or for an entry that is its text. -/
theorem allows_ofTexts_v4_iff :
    (ofTexts texts).allows (.v4 ip) = true ↔
      ip.isLoopback = true ∨ ∃ t ∈ texts, trimmed t = (Ip.v4 ip).text := by
  simp only [allows_ofTexts_iff, Ip.canonical, Ip.isLoopback, or_self]

/-- In its IPv6 shape an address may connect if it may as it is, or if it is listed in this
    shape. -/
theorem allows_ofTexts_mapped_iff :
    (ofTexts texts).allows (.v6 (.ofIpv4 ip)) = true ↔
      (ofTexts texts).allows (.v4 ip) = true ∨
        ∃ t ∈ texts, trimmed t = "::ffff:" ++ (Ip.v4 ip).text := by
  have hcanonical : (Ip.v6 (.ofIpv4 ip)).canonical = .v4 ip := Ip.canonical_v6_ofIpv4 ip
  rw [allows_ofTexts_v4_iff, allows_ofTexts_iff, hcanonical, Ip.text_v6_ofIpv4, Ip.isLoopback,
    or_assoc, ← exists_or]
  simp only [← and_or_left]

/-- The two shapes of an address are told apart exactly by a list with the IPv6 shape alone. -/
theorem listsOnlyMapped_iff :
    ListsOnlyMapped texts ip ↔ (ofTexts texts).allows (.v4 ip) = false ∧
      (ofTexts texts).allows (.v6 (.ofIpv4 ip)) = true := by
  rw [← Bool.not_eq_true, allows_ofTexts_mapped_iff, allows_ofTexts_v4_iff, not_or,
    Bool.not_eq_true, not_exists]
  constructor
  · rintro ⟨hloopback, hlisted, hmapped⟩
    exact ⟨⟨hloopback, fun t ht => hlisted t ht.1 ht.2⟩, Or.inr hmapped⟩
  · rintro ⟨⟨hloopback, hlisted⟩, hallowed⟩
    refine ⟨hloopback, fun t ht htext => hlisted t ⟨ht, htext⟩, hallowed.resolve_left ?_⟩
    rintro (hself | ⟨t, ht, htext⟩)
    · rw [hloopback] at hself
      cases hself
    · exact hlisted t ⟨ht, htext⟩

/-- An address that may connect may also connect in its IPv6 shape. So the shapes are judged
    differently in one way only. -/
theorem allows_mapped_eq_iff :
    (ofTexts texts).allows (.v6 (.ofIpv4 ip)) = (ofTexts texts).allows (.v4 ip) ↔
      ¬ListsOnlyMapped texts ip := by
  have hmono : (ofTexts texts).allows (.v4 ip) = true →
      (ofTexts texts).allows (.v6 (.ofIpv4 ip)) = true :=
    fun h => allows_ofTexts_mapped_iff.2 (Or.inl h)
  rw [listsOnlyMapped_iff]
  cases hself : (ofTexts texts).allows (.v4 ip) with
  | false => simp
  | true => simp [hmono hself]

/-- Both shapes of an IPv4 address get the same kind of verdict, unless the address is listed in
    its IPv6 shape alone and is not one of the machine itself. Then it is rejected as it is and
    allowed in the listed shape. Ports do not matter. -/
theorem judge_dual_stack (texts : List String) (ip : Ipv4) (port port' : UInt16) :
    ((ofTexts texts).allows (.v6 (.ofIpv4 ip)) = (ofTexts texts).allows (.v4 ip) ↔
      ¬ListsOnlyMapped texts ip) ∧
    (((ofTexts texts).judge (some ⟨.v6 (.ofIpv4 ip), port⟩)).kind =
        ((ofTexts texts).judge (some ⟨.v4 ip, port'⟩)).kind ↔ ¬ListsOnlyMapped texts ip) ∧
    (ListsOnlyMapped texts ip ↔
      (ofTexts texts).judge (some ⟨.v4 ip, port'⟩) = .rejected ⟨.v4 ip, port'⟩ ∧
        (ofTexts texts).judge (some ⟨.v6 (.ofIpv4 ip), port⟩) =
          .allowed ⟨.v6 (.ofIpv4 ip), port⟩) := by
  refine ⟨allows_mapped_eq_iff, ?_, ?_⟩
  · rw [kind_judge, kind_judge, ← allows_mapped_eq_iff]
    cases (ofTexts texts).allows (.v6 (.ofIpv4 ip)) <;>
      cases (ofTexts texts).allows (.v4 ip) <;> decide
  · rw [listsOnlyMapped_iff, judge_eq_allowed_iff, judge]
    simp

/-- An entry in the IPv6 shape of an address does not admit the address itself. -/
theorem mapped_entry_admits_one_shape :
    ¬∀ (texts : List String) (ip : Ipv4),
      (ofTexts texts).allows (.v4 ip) = (ofTexts texts).allows (.v6 (.ofIpv4 ip)) := by
  intro hsame
  have hfirst := hsame ["::ffff:10.0.0.7"] ⟨10, 0, 0, 7⟩
  revert hfirst
  decide +kernel

end AllowList

end KnxGateway
