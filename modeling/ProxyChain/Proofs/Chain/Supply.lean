import ProxyChain.Proofs.Chain.Relay

/-!
# Ports one after the other

A supply that counts up from a base hands out the base and the ports that follow it up to the last one,
and then what the system answers (`PortSupply.Hands.split`). Planning takes the ports of the helpers in
the order of the chain, each helper's own port right before its relay (`hands_of_planHops`), so that they
are consecutive as long as the last port is not passed (`handedOut_of_planHops`).
-/

namespace ProxyChain

variable {system : SystemPorts} {supply supply' supply'' : PortSupply} {n : Nat}

/-- How many ports the helpers of a chain need: each one to listen on, and behind other hops a relay. -/
def portsNeeded : (behind : Bool) → List Record → Nat
  | _, [] => 0
  | behind, r :: rs =>
    (if r.profile.needsHelper then if behind then 2 else 1 else 0) + portsNeeded true rs

/-- The ports of a helper in the order in which they are handed out. -/
def Helper.Ports.handedOut (p : Helper.Ports) : List UInt16 := p.listen :: p.relay.toList

/-- The ports of the helpers of hops in the order in which they are handed out. -/
def Hop.handedOut (hops : List Hop) : List UInt16 :=
  (Hop.helperPorts hops).flatMap Helper.Ports.handedOut

namespace PortSupply

/-- The next port to be handed out is `n`, if it is a port at all: past the last one the counter starts
over. -/
structure Next (supply : PortSupply) (n : Nat) : Prop where
  counter : supply.counter = UInt16.ofNat n
  positive : 0 < n

/-- How many ports are counted before the system is asked. -/
def left (supply : PortSupply) : Nat :=
  if supply.counter = 0 then 0 else 65536 - supply.counter.toNat

/-- Counting goes on to the following port, or it is over. -/
lemma left_of_counted (counted : supply.counter ≠ 0) :
    let next : PortSupply := { supply with counter := supply.counter + 1 }
    supply.left = next.left + 1 ∧
      (next.left = 0 ∨ next.counter.toNat = supply.counter.toNat + 1) := by
  have positive : supply.counter.toNat ≠ 0 := fun zero => counted (UInt16.toNat_inj.1 zero)
  have bound := supply.counter.toNat_lt
  have following : (supply.counter + 1).toNat = (supply.counter.toNat + 1) % 65536 :=
    UInt16.toNat_add _ _
  dsimp only [left]
  rw [if_neg counted]
  by_cases spent : supply.counter + 1 = 0
  · rw [if_pos spent]
    rw [spent] at following
    simp only [UInt16.toNat_zero] at following
    omega
  · have more : (supply.counter + 1).toNat ≠ 0 := fun zero => spent (UInt16.toNat_inj.1 zero)
    rw [if_neg spent]
    omega

/-- Ports are taken from a supply one after the other. -/
inductive Hands (system : SystemPorts) : PortSupply → List UInt16 → PortSupply → Prop where
  | nil {supply : PortSupply} : Hands system supply [] supply
  | cons {supply supply' supply'' : PortSupply} {port : UInt16} {ports : List UInt16}
      (taken : supply.take system = .ok (port, supply')) (rest : Hands system supply' ports supply'') :
      Hands system supply (port :: ports) supply''

namespace Hands

/-- What is handed out first and what is handed out afterwards is handed out together. -/
lemma append {ports ports' : List UInt16} (h : Hands system supply ports supply')
    (h' : Hands system supply' ports' supply'') : Hands system supply (ports ++ ports') supply'' := by
  induction h with
  | nil => exact h'
  | cons taken _ ih => exact .cons taken (ih h')

/-- First ports are counted, as far as there are any left, and then the system is asked. -/
theorem split {ports : List UInt16} (h : Hands system supply ports supply') :
    ∃ counted asked, ports = counted ++ asked ∧ counted.length = min ports.length supply.left ∧
      counted.map UInt16.toNat = List.range' supply.counter.toNat counted.length ∧
      asked.map Except.ok = (List.range' supply.asked asked.length).map system := by
  induction h with
  | nil => exact ⟨[], [], rfl, (Nat.zero_min _).symm, rfl, rfl⟩
  | @cons supply supply' supply'' port ports taken rest ih =>
    obtain ⟨counted, asked, both, length, inOrder, answers⟩ := ih
    unfold take at taken
    by_cases zero : supply.counter = 0
    · -- The counter stays where it is, so nothing is counted any more.
      rw [if_pos zero] at taken
      cases answered : system supply.asked with
      | error e => rw [answered] at taken; cases taken
      | ok answer =>
        rw [answered] at taken
        cases taken
        have spent : supply.left = 0 := if_pos zero
        have none : counted = [] := by
          apply List.length_eq_zero_iff.1
          rw [length, left, if_pos zero, Nat.min_zero]
        subst none
        refine ⟨[], port :: asked, congrArg (port :: ·) both, ?_, rfl, ?_⟩
        · rw [spent, Nat.min_zero, List.length_nil]
        · rw [List.map_cons, answers, List.length_cons, List.range'_succ, List.map_cons, answered]
    · rw [if_neg zero] at taken
      cases taken
      obtain ⟨left, following⟩ := left_of_counted zero
      refine ⟨supply.counter :: counted, asked, congrArg (supply.counter :: ·) both, ?_, ?_, answers⟩
      · rw [left, List.length_cons, length, List.length_cons, Nat.add_min_add_right]
      · rw [List.map_cons, inOrder, List.length_cons, List.range'_succ]
        obtain spent | following := following
        · rw [spent, Nat.min_zero] at length
          rw [length, List.range'_zero, List.range'_zero]
        · rw [following]

end Hands

/-- As long as the last port is not passed, the ports are consecutive. -/
lemma Next.hands {ports : List UInt16} (next : supply.Next n) (room : n + ports.length ≤ 65536)
    (h : Hands system supply ports supply') :
    ports.map UInt16.toNat = List.range' n ports.length := by
  obtain ⟨counted, asked, rfl, length, inOrder, -⟩ := h.split
  rw [List.length_append] at length room
  by_cases last : n < 65536
  · have value : supply.counter.toNat = n := by
      rw [next.counter, UInt16.toNat_ofNat_of_lt' last]
    have left : supply.left = 65536 - n := by
      rw [left, value, if_neg]
      intro zero
      rw [zero] at value
      exact Nat.ne_of_lt next.positive value
    have none : asked = [] := List.length_eq_zero_iff.1 (by omega)
    rw [none, List.append_nil, inOrder, value]
  · obtain ⟨none, none'⟩ : counted.length = 0 ∧ asked.length = 0 := by omega
    rw [List.length_eq_zero_iff.1 none, List.length_eq_zero_iff.1 none']
    rfl

end PortSupply

open PortSupply

/-- A helper is given the next port, and behind other hops the one after it as its relay. -/
lemma hands_of_takePorts {behind : Bool} {ports : Helper.Ports}
    (h : takePorts system behind supply = .ok (ports, supply')) :
    Hands system supply ports.handedOut supply' ∧
      ports.handedOut.length = if behind then 2 else 1 := by
  unfold takePorts at h
  cases first : supply.take system with
  | error e => rw [first] at h; cases h
  | ok taken =>
    rw [first] at h
    cases behind with
    | false =>
      cases h
      exact ⟨.cons first .nil, rfl⟩
    | true =>
      cases second : taken.2.take system with
      | error e =>
        simp only [bind, Except.bind, if_true, second] at h
        cases h
      | ok taken' =>
        simp only [bind, Except.bind, if_true, second] at h
        cases h
        exact ⟨.cons first (.cons second .nil), rfl⟩

/-- Planning takes the ports of the helpers one after the other, as many as the chain needs. -/
theorem hands_of_planHops {s : Settings} {index : Nat} {previous : Option String}
    {chain : List Record} {hops : List Hop}
    (h : planHops system s index previous supply chain = .ok hops) :
    (∃ supply', Hands system supply (Hop.handedOut hops) supply') ∧
      (Hop.handedOut hops).length = portsNeeded previous.isSome chain := by
  -- What the hop at hand does not take is left for the others, which all stand behind it.
  induction chain generalizing index previous supply hops with
  | nil =>
    cases h
    exact ⟨⟨supply, .nil⟩, rfl⟩
  | cons record records ih =>
    unfold planHops at h
    cases first : planCarrier system s previous.isSome record supply with
    | error e => rw [first] at h; cases h
    | ok result =>
      obtain ⟨carrier, supply'⟩ := result
      simp only [first, bind, Except.bind] at h
      split at h
      · cases h
      · next rest planned =>
        cases h
        obtain ⟨⟨last, others⟩, count⟩ := ih planned
        unfold planCarrier at first
        cases full : record.profile.isFullConfig with
        | true => rw [full] at first; cases first
        | false =>
          cases needs : record.profile.needsHelper with
          | true =>
            cases taken : takePorts system previous.isSome supply with
            | error cause => rw [full, needs, taken] at first; cases first
            | ok result =>
              rw [full, needs, taken] at first
              cases first
              obtain ⟨own, ownCount⟩ := hands_of_takePorts taken
              refine ⟨⟨last, own.append others⟩, ?_⟩
              have both : Hop.handedOut ({ record, index, previous, carrier := .helper result.1 } :: rest)
                  = result.1.handedOut ++ Hop.handedOut rest := rfl
              rw [both, List.length_append, ownCount, count, portsNeeded, needs, if_pos rfl]
              rfl
          | false =>
            cases built : record.profile.toOutbound s with
            | error e => rw [full, needs, built] at first; cases first
            | ok outbound =>
              rw [full, needs, built] at first
              cases first
              refine ⟨⟨last, others⟩, ?_⟩
              rw [portsNeeded, needs]
              exact count.trans (Nat.zero_add _).symm

/-- The ports that planning hands out are consecutive, as many as the chain needs. -/
theorem handedOut_of_planHops {s : Settings} {index : Nat} {previous : Option String}
    {chain : List Record} {hops : List Hop} (next : supply.Next n)
    (room : n + portsNeeded previous.isSome chain ≤ 65536)
    (h : planHops system s index previous supply chain = .ok hops) :
    (Hop.handedOut hops).map UInt16.toNat = List.range' n (portsNeeded previous.isSome chain) := by
  obtain ⟨⟨supply', hands⟩, count⟩ := hands_of_planHops h
  rw [← count] at room ⊢
  exact next.hands room hands

end ProxyChain
