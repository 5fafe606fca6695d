import Fvs318g.Netfilter.NatFtp

/-!
# Announced FTP ports and their expectations

The search for a data port ends with a port that it registered, or with none. A port from the
accelerator is announced without a look at the answer to its registration. The announcement is
therefore right for all calls but those in which the accelerator gives a port whose registration
fails.
-/

namespace Fvs318g.Verif.NatFtp

open Kernel Netfilter

/-- A registration of the port succeeded. -/
def Registered (tried : List (UInt16 × Int32)) (port : UInt16) : Prop := (port, 0) ∈ tried

/-! ## The search -/

/-- What a search has found: the port it registered, and nothing else is registered. -/
def Sought (a : Assigned) : Prop :=
  (a.port ≠ 0 → Registered a.tried a.port ∧ a.exp.dstPort = htons a.port) ∧
    ∀ port, Registered a.tried port → port = a.port ∧ port ≠ 0

/-- One round without success in front of a search. -/
theorem Sought.cons {a : Assigned} (sought : Sought a) {port : UInt16} {answer : Int32}
    (failed : answer ≠ 0) : Sought { a with tried := [(port, answer)] ++ a.tried } := by
  constructor
  · intro chosen
    exact ⟨List.mem_append_right _ (sought.1 chosen).1, (sought.1 chosen).2⟩
  · intro other registered
    rcases List.mem_append.mp registered with here | later
    · have same := List.mem_singleton.mp here
      exact absurd (congrArg Prod.snd same).symm failed
    · exact sought.2 other later

/-- The rounds are enough to go through the ports that are left. -/
def Enough (n : Nat) (port : UInt16) : Prop := port = 0 ∨ 2 ^ 16 ≤ n + port.toNat

/-- One round goes to the next port. -/
theorem Enough.next {n : Nat} {port : UInt16} (enough : Enough (n + 1) port) (nonzero : port ≠ 0) :
    Enough n (port + 1) := by
  have bound := enough.resolve_left nonzero
  have size := port.toNat_lt
  have sum : (port + 1).toNat = (port.toNat + 1) % 2 ^ 16 := UInt16.toNat_add port 1
  by_cases last : port.toNat + 1 = 2 ^ 16
  · left
    apply UInt16.toNat_inj.mp
    rw [sum, last]
    rfl
  · right
    rw [sum, Nat.mod_eq_of_lt (by omega)]
    omega

/-- The search ends with the port that it registered, or with port 0 and without an expectation. -/
theorem origAssignPort_sought (related : UInt16 → Int32) {n : Nat} {port : UInt16}
    (enough : Enough n port) (exp : FtpExpect) : Sought (origAssignPort related n exp port) := by
  have stopped : ∀ exp : FtpExpect, Sought ⟨0, exp, []⟩ := fun exp =>
    ⟨fun chosen => absurd rfl chosen, fun _ registered => absurd registered List.not_mem_nil⟩
  induction n generalizing port exp with
  | zero =>
    have size := port.toNat_lt
    have zero : port = 0 := enough.resolve_right (by omega)
    rw [zero]
    exact stopped exp
  | succ n ih =>
    rw [origAssignPort]
    by_cases zero : port = 0
    · rw [if_pos zero, zero]
      exact stopped exp
    · rw [if_neg zero]
      by_cases free : related (htons port) = 0
      · simp only [if_pos free, expectRelated]
        refine ⟨fun _ => ⟨?_, rfl⟩, fun other registered => ?_⟩
        · rw [Registered, free]
          exact List.mem_singleton.mpr rfl
        · have same : other = port := congrArg Prod.fst (List.mem_singleton.mp registered)
          exact ⟨same, same ▸ zero⟩
      · simp only [if_neg free]
        exact (ih (enough.next zero) _).cons free

/-! ## The call -/

section Call

variable (env : FtpEnv) (ct : Conntrack) (dir : Dir) (type : FtpType) (matchoff matchlen : Nat)
  (exp : FtpExpect) (seq : UInt32)

/-- The port that the accelerator gives in a call. -/
def offered : Option UInt16 := shnatPort env ct dir exp.dstPort

/-- The accelerator gives a port that is announced although its registration fails. -/
def Unregistered : Prop :=
  ∃ port, offered env ct dir exp = some port ∧ port ≠ 0 ∧ env.related (htons port) ≠ 0 ∧
    env.mangled = true

/-- What a call has to do: announce only what it registered. -/
def Announces (out : FtpOutcome) : Prop :=
  (out.verdict = .accept → ∃ port, Registered out.tried port ∧ out.exp.dstPort = htons port ∧
    out.written = some (matchoff, matchlen, mangleText type (ftpNewip ct dir) port)) ∧
  ((∀ port, ¬ Registered out.tried port) → out.verdict = .drop)

/-- The port of a call. -/
def assigned : Assigned :=
  ftpAssignPort env ct dir { exp with savedProto := exp.dstPort, dir := dir.flip }

/-- Without a port from the accelerator the port is searched for. -/
theorem assigned_search (none : offered env ct dir exp = none) :
    assigned env ct dir exp = origAssignPort env.related (2 ^ 16)
      { exp with savedProto := exp.dstPort, dir := dir.flip } (htons exp.dstPort) := by
  rw [offered] at none
  simp only [assigned, ftpAssignPort, none]

/-- The registrations of a call are those of its port. -/
theorem ipNatFtp_tried :
    (ipNatFtp env ct dir type matchoff matchlen exp seq).tried =
      (assigned env ct dir exp).tried := by
  simp only [ipNatFtp, assigned]
  split
  · rfl
  · split <;> rfl

/-- The expectation that a call leaves. -/
theorem ipNatFtp_exp :
    (ipNatFtp env ct dir type matchoff matchlen exp seq).exp = (assigned env ct dir exp).exp := by
  simp only [ipNatFtp, assigned]
  split
  · rfl
  · split <;> rfl

/-- A packet is accepted when there is a port and it could be written. -/
theorem ipNatFtp_accept :
    (ipNatFtp env ct dir type matchoff matchlen exp seq).verdict = .accept ↔
      (assigned env ct dir exp).port ≠ 0 ∧ env.mangled = true := by
  simp only [ipNatFtp, assigned]
  split
  · rename_i zero
    exact ⟨(nomatch ·), fun h => absurd zero h.1⟩
  · rename_i nonzero
    split
    · rename_i mangled
      exact ⟨fun _ => ⟨nonzero, mangled⟩, fun _ => rfl⟩
    · rename_i failed
      exact ⟨(nomatch ·), fun h => absurd h.2 failed⟩

/-- The text of a call that has a port. -/
theorem ipNatFtp_written (nonzero : (assigned env ct dir exp).port ≠ 0) :
    (ipNatFtp env ct dir type matchoff matchlen exp seq).written =
      some (matchoff, matchlen,
        mangleText type (ftpNewip ct dir) (assigned env ct dir exp).port) := by
  rw [assigned] at nonzero ⊢
  simp only [ipNatFtp, if_neg nonzero]
  split <;> rfl

/-- A call whose port is registered announces it. -/
theorem announces_of_registered
    (registered : (assigned env ct dir exp).port ≠ 0 → env.mangled = true →
      Registered (assigned env ct dir exp).tried (assigned env ct dir exp).port ∧
        (assigned env ct dir exp).exp.dstPort = htons (assigned env ct dir exp).port) :
    Announces ct dir type matchoff matchlen
      (ipNatFtp env ct dir type matchoff matchlen exp seq) := by
  rw [Announces, ipNatFtp_tried, ipNatFtp_exp]
  constructor
  · intro accepted
    have ⟨nonzero, mangled⟩ :=
      (ipNatFtp_accept env ct dir type matchoff matchlen exp seq).mp accepted
    have ⟨success, port⟩ := registered nonzero mangled
    exact ⟨_, success, port, ipNatFtp_written env ct dir type matchoff matchlen exp seq nonzero⟩
  · intro none
    cases verdict : (ipNatFtp env ct dir type matchoff matchlen exp seq).verdict with
    | drop => rfl
    | accept =>
      have ⟨nonzero, mangled⟩ :=
        (ipNatFtp_accept env ct dir type matchoff matchlen exp seq).mp verdict
      exact absurd (registered nonzero mangled).1 (none _)

/-- A call accepts a packet only with the port of an expectation that it registered, and drops it
when it registered none, exactly when the accelerator does not give a port whose registration fails
while the packet can be written. -/
theorem ip_nat_ftp_iff :
    Announces ct dir type matchoff matchlen
        (ipNatFtp env ct dir type matchoff matchlen exp seq) ↔
      ¬ Unregistered env ct dir exp := by
  cases choice : offered env ct dir exp with
  | none =>
    have enough : Enough (2 ^ 16) (htons exp.dstPort) := .inr (Nat.le_add_right _ _)
    have sought := origAssignPort_sought env.related enough
      { exp with savedProto := exp.dstPort, dir := dir.flip }
    rw [← assigned_search env ct dir exp choice] at sought
    constructor
    · rintro _ ⟨port, given, _⟩
      rw [choice] at given
      cases given
    · intro _
      exact announces_of_registered env ct dir type matchoff matchlen exp seq
        fun nonzero _ => sought.1 nonzero
  | some port =>
    have given : assigned env ct dir exp = expectRelated env.related
        { exp with savedProto := exp.dstPort, dir := dir.flip } port := by
      rw [offered] at choice
      simp only [assigned, ftpAssignPort, choice]
    constructor
    · rintro announces ⟨other, same, nonzero, failed, mangled⟩
      rw [choice, Option.some.injEq] at same
      subst same
      have accepted := (ipNatFtp_accept env ct dir type matchoff matchlen exp seq).mpr
        ⟨by rw [given]; exact nonzero, mangled⟩
      have ⟨announced, registered, _⟩ := announces.1 accepted
      rw [ipNatFtp_tried, given] at registered
      have answer := congrArg Prod.snd (List.mem_singleton.mp registered)
      exact failed answer.symm
    · intro fine
      apply announces_of_registered
      rw [given]
      intro nonzero mangled
      have success : env.related (htons port) = 0 := by
        by_contra failed
        exact fine ⟨port, choice, nonzero, failed, mangled⟩
      refine ⟨?_, rfl⟩
      rw [Registered, expectRelated, success]
      exact List.mem_singleton.mpr rfl

end Call

/-- A control connection from 192.168.0.2, translated to 10.0.0.1, to a server at 10.0.0.9. -/
def ftpControl : Conntrack where
  original := ⟨⟨0x0200a8c0, 0x0110⟩, ⟨0x0900000a, 0x1500, 6, .original⟩⟩
  reply := ⟨⟨0x0900000a, 0x1500⟩, ⟨0x0100000a, 0x0110, 6, .reply⟩⟩
  srcNat := true
  dstNat := false
  srcNatDone := true
  dstNatDone := true
  masqIndex := 1

/-- An accelerator that gives port 50000, for which `ip_conntrack_expect_related` answers
`-EBUSY`. -/
def ftpBusy : FtpEnv where
  ready := true
  preadd := fun _ _ => 50000
  related := fun _ => -16
  mangled := true

/-- The packet is accepted with port 50000, for which there is no expectation. -/
theorem ip_nat_ftp_busy :
    (ipNatFtp ftpBusy ftpControl .original .port 0 20 ⟨⟨.original, 0⟩, 0x0114⟩ 0).verdict =
      .accept ∧
    (ipNatFtp ftpBusy ftpControl .original .port 0 20 ⟨⟨.original, 0⟩, 0x0114⟩ 0).tried =
      [(50000, -16)] ∧
    ∀ port, ¬ Registered
      (ipNatFtp ftpBusy ftpControl .original .port 0 20 ⟨⟨.original, 0⟩, 0x0114⟩ 0).tried port := by
  have tried : (ipNatFtp ftpBusy ftpControl .original .port 0 20 ⟨⟨.original, 0⟩, 0x0114⟩ 0).tried =
      [(50000, -16)] := by
    rw [ipNatFtp_tried]
    decide
  refine ⟨?_, tried, ?_⟩
  · rw [ipNatFtp_accept]
    decide
  · intro port registered
    rw [tried] at registered
    have answer : (0 : Int32) = -16 := congrArg Prod.snd (List.mem_singleton.mp registered)
    exact absurd answer (by decide)

end Fvs318g.Verif.NatFtp
