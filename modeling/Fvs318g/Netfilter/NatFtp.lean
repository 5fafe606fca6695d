import Fvs318g.Netfilter.Shnat

/-!
# Rewriting an announced FTP data port

`ip_nat_ftp` of `ip_nat_ftp.c` with `CONFIG_STR9100_SHNAT`. It finds a port for the data connection,
from the accelerator or by search, registers an expectation for it, and writes the port over the one
in the packet. What the functions that it calls answer is an input of the call: the hook of the
accelerator, `ip_conntrack_expect_related` and `ip_nat_mangle_tcp_packet`. One call registers no
port twice, so that the answers to registrations are a function of the port.
-/

namespace Fvs318g.Netfilter

open Kernel

/-! ## The texts -/

/-- `enum ip_ct_ftp_type`. -/
inductive FtpType where
  /-- `IP_CT_FTP_PORT`. -/
  | port
  /-- `IP_CT_FTP_PASV`. -/
  | pasv
  /-- `IP_CT_FTP_EPRT`. -/
  | eprt
  /-- `IP_CT_FTP_EPSV`. -/
  | epsv
  deriving DecidableEq, Repr

/-- `NIPQUAD`: the bytes of an address in the order of memory. -/
def nipquad (ip : UInt32) : List Nat :=
  [(ip &&& 0xff).toNat, ((ip >>> 8) &&& 0xff).toNat, ((ip >>> 16) &&& 0xff).toNat,
    (ip >>> 24).toNat]

/-- What `mangle_rfc959_packet` writes. -/
def rfc959Text (newip : UInt32) (port : UInt16) : String :=
  ",".intercalate ((nipquad newip ++ [(port >>> 8).toNat, (port &&& 0xff).toNat]).map toString)

/-- What `mangle_eprt_packet` writes. -/
def eprtText (newip : UInt32) (port : UInt16) : String :=
  "|1|" ++ ".".intercalate ((nipquad newip).map toString) ++ "|" ++ toString port.toNat ++ "|"

/-- What `mangle_epsv_packet` writes. -/
def epsvText (port : UInt16) : String := "|||" ++ toString port.toNat ++ "|"

/-- The table `mangle`. -/
def mangleText (type : FtpType) (newip : UInt32) (port : UInt16) : String :=
  match type with
  | .port => rfc959Text newip port
  | .pasv => rfc959Text newip port
  | .eprt => eprtText newip port
  | .epsv => epsvText port

/-! ## Finding a port -/

/-- The fields of `struct ip_conntrack_expect` that the call writes. -/
structure FtpExpect extends Expect where
  /-- `tuple.dst.u.tcp.port`. -/
  dstPort : UInt16
  deriving DecidableEq, Repr

/-- What the called functions answer. -/
structure FtpEnv where
  /-- `star9100_shnat_hook_ready`. -/
  ready : Bool
  /-- `star9100_shnat_nf_nat_preadd_hnatable_hook`, for a direction and a port. -/
  preadd : Dir → UInt16 → Int32
  /-- `ip_conntrack_expect_related`, for the port of the expectation. -/
  related : UInt16 → Int32
  /-- Whether `ip_nat_mangle_tcp_packet` could write the text. -/
  mangled : Bool

/-- The direction in which the accelerator is asked for a port, if it is. -/
def shnatDir (ct : Conntrack) (dir : Dir) : Option Dir :=
  if dir = .original ∧ ct.original.dst.ip = ct.reply.src.ip then some dir
  else if dir = .reply ∧ ct.original.src.ip = ct.reply.dst.ip then some dir
  else if dir = .original ∧ ct.original.src.ip = ct.reply.dst.ip then some dir.flip
  else none

/-- The port that the accelerator gives. -/
def shnatPort (env : FtpEnv) (ct : Conntrack) (dir : Dir) (savedProto : UInt16) : Option UInt16 :=
  if env.ready then do
    let shnatHash := env.preadd (← shnatDir ct dir) (htons savedProto)
    if shnatHash ≥ 0 then some (toPort shnatHash) else none
  else none

/-- A port that was chosen. -/
structure Assigned where
  /-- `port`. -/
  port : UInt16
  /-- The expectation as it is left. -/
  exp : FtpExpect
  /-- The ports for which a registration was tried, in the order of the calls, and the answers. -/
  tried : List (UInt16 × Int32)
  deriving DecidableEq, Repr

/-- Write a port to the expectation and register it. -/
def expectRelated (related : UInt16 → Int32) (exp : FtpExpect) (port : UInt16) : Assigned where
  port := port
  exp := { exp with dstPort := htons port }
  tried := [(port, related (htons port))]

/-- The loop at `orig_assign_port`, with at most `n` rounds. -/
def origAssignPort (related : UInt16 → Int32) : Nat → FtpExpect → UInt16 → Assigned
  | 0, exp, port => ⟨port, exp, []⟩
  | n + 1, exp, port =>
    if port = 0 then ⟨port, exp, []⟩
    else
      let first := expectRelated related exp port
      if related (htons port) = 0 then first
      else
        let rest := origAssignPort related n first.exp (port + 1)
        { rest with tried := first.tried ++ rest.tried }

/-- The port of a call. A port from the accelerator is registered, whatever the answer is. -/
def ftpAssignPort (env : FtpEnv) (ct : Conntrack) (dir : Dir) (exp : FtpExpect) : Assigned :=
  match shnatPort env ct dir exp.savedProto with
  | some port => expectRelated env.related exp port
  | none => origAssignPort env.related (2 ^ 16) exp (htons exp.savedProto)

/-! ## The call -/

/-- What one call leaves. -/
structure FtpOutcome where
  /-- The return value. -/
  verdict : Verdict
  /-- The expectation. -/
  exp : FtpExpect
  /-- The registrations. -/
  tried : List (UInt16 × Int32)
  /-- The text that `ip_nat_mangle_tcp_packet` was given, with the place in the packet. -/
  written : Option (Nat × Nat × String)
  /-- `ip_conntrack_unexpect_related` was called. -/
  unexpected : Bool
  /-- The sequence number. -/
  seq : UInt32
  deriving DecidableEq, Repr

/-- `newip`. -/
def ftpNewip (ct : Conntrack) (dir : Dir) : UInt32 := (ct.tuplehash dir.flip).dst.ip

/-- `ip_nat_ftp`. -/
def ipNatFtp (env : FtpEnv) (ct : Conntrack) (dir : Dir) (type : FtpType) (matchoff matchlen : Nat)
    (exp : FtpExpect) (seq : UInt32) : FtpOutcome :=
  let exp := { exp with savedProto := exp.dstPort, dir := dir.flip }
  let assigned := ftpAssignPort env ct dir exp
  if assigned.port = 0 then ⟨.drop, assigned.exp, assigned.tried, none, false, seq⟩
  else
    let text := mangleText type (ftpNewip ct dir) assigned.port
    let seq := seq + (UInt32.ofNat text.length - UInt32.ofNat matchlen)
    if env.mangled then
      ⟨.accept, assigned.exp, assigned.tried, some (matchoff, matchlen, text), false, seq⟩
    else ⟨.drop, assigned.exp, assigned.tried, some (matchoff, matchlen, text), true, seq⟩

end Fvs318g.Netfilter
