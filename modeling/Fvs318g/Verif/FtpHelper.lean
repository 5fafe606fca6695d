import Fvs318g.Verif.FtpParse
import Fvs318g.Verif.Mangle
import Fvs318g.Verif.NatFtp

/-!
# The announced port and the expected one

The helper, `ip_nat_ftp` and `ip_nat_mangle_tcp_packet` together: a packet that is let through with
an expectation announces, to whoever reads it as the helper does, the address and the port of that
expectation.
-/

namespace Fvs318g.Verif.FtpHelper

open Lib Kernel Netfilter FtpParse
open NatRoundTrip (TcpPacket)
open Mangle (Replaced replaced_of_mangle)
open NatFtp (assigned offered origAssignPort_sought assigned_search ipNatFtp_written ipNatFtp_exp
  ipNatFtp_accept ftpControl)

/-! ## The search -/

section Search

variable {dir : Dir} {array array' : List UInt32} {data data' : List UInt8} {type : FtpType}
  {numoff numlen : Nat}

/-- The entry of a type has the type. -/
theorem ftptype_search (type : FtpType) : type.search.ftptype = type := by cases type <;> rfl

/-- The entry that has matched. -/
theorem findPattern_of_searchLoop {types : List FtpType}
    (found : searchLoop dir array data (types.map FtpType.search) =
      some (type, .matched numoff numlen array')) :
    findPattern type.search array data = .matched numoff numlen array' := by
  induction types with
  | nil => cases found
  | cons t types ih =>
    rw [List.map_cons, searchLoop] at found
    split at found
    · exact ih found
    · cases outcome : findPattern t.search array data with rw [outcome] at found
      | noMatch => exact ih found
      | incomplete => cases found
      | matched off len values =>
        cases found
        rw [ftptype_search, outcome]

/-- What an entry finds is in the data. -/
theorem matched_inside
    (found : findPattern type.search array data = .matched numoff numlen array') :
    numoff + numlen ≤ data.length := by
  obtain ⟨long, -, skipped, read⟩ := findPattern_matched found
  have inside := (skipTo_some skipped).2.1
  have fits := (getnum_some read).1
  rw [List.length_drop] at inside fits
  omega

end Search

/-! ## One packet -/

section Packet

variable {ftpEnv : FtpEnv} {mangleEnv : MangleEnv} {ct : Conntrack} {dir : Dir} {type : FtpType}
  {data : List UInt8} {natSeq : NatSeq} {matchoff matchlen : Nat} {exp : FtpExpect} {seq : UInt32}

/-- The port of an accepted call is the one of its expectation. -/
theorem dstPort_assigned (chosen : (assigned ftpEnv ct dir exp).port ≠ 0) :
    (assigned ftpEnv ct dir exp).exp.dstPort = htons (assigned ftpEnv ct dir exp).port := by
  cases given : offered ftpEnv ct dir exp with
  | none =>
    rw [assigned_search _ _ _ _ given] at chosen ⊢
    exact ((origAssignPort_sought ftpEnv.related (.inr (Nat.le_add_right _ _)) _).1 chosen).2
  | some port =>
    rw [offered] at given
    simp only [assigned, ftpAssignPort, given]
    rfl

/-- The sequence number that is given back. -/
theorem ipNatFtp_seq (chosen : (assigned ftpEnv ct dir exp).port ≠ 0) :
    (ipNatFtp ftpEnv ct dir type matchoff matchlen exp seq).seq =
      seq + (UInt32.ofNat
          (mangleText type (ftpNewip ct dir) (assigned ftpEnv ct dir exp).port).length -
        UInt32.ofNat matchlen) := by
  rw [assigned] at chosen ⊢
  simp only [ipNatFtp, if_neg chosen]
  split <;> rfl

/-- A packet that `ip_nat_ftp` accepts. -/
theorem natFtpPacket_accept
    (accepted : (natFtpPacket ftpEnv mangleEnv ct dir type data natSeq matchoff matchlen exp
      seq).1.verdict = .accept) :
    ∃ port, port ≠ 0 ∧
      (natFtpPacket ftpEnv mangleEnv ct dir type data natSeq matchoff matchlen exp
        seq).1.exp.dstPort = htons port ∧
      ipNatMangleTcpPacket mangleEnv data natSeq matchoff matchlen
        (textBytes (mangleText type (ftpNewip ct dir) port)) =
        some (natFtpPacket ftpEnv mangleEnv ct dir type data natSeq matchoff matchlen exp seq).2 ∧
      (natFtpPacket ftpEnv mangleEnv ct dir type data natSeq matchoff matchlen exp seq).1.seq =
        seq + (UInt32.ofNat (mangleText type (ftpNewip ct dir) port).length -
          UInt32.ofNat matchlen) := by
  have accept := fun m => ipNatFtp_accept { ftpEnv with mangled := m } ct dir type matchoff matchlen
    exp seq
  have text :=
    ipNatFtp_written { ftpEnv with mangled := true } ct dir type matchoff matchlen exp seq
  have expected :=
    ipNatFtp_exp { ftpEnv with mangled := true } ct dir type matchoff matchlen exp seq
  unfold natFtpPacket at accepted ⊢
  simp only at accepted ⊢
  cases wanted : (ipNatFtp { ftpEnv with mangled := true } ct dir type matchoff matchlen exp
    seq).written with rw [wanted] at accepted
  | none =>
    have chosen := ((accept true).mp accepted).1
    cases wanted.symm.trans (text chosen)
  | some place =>
    obtain ⟨off, len, printed⟩ := place
    simp only at accepted ⊢
    cases done : ipNatMangleTcpPacket mangleEnv data natSeq matchoff matchlen
      (textBytes printed) with
    | none =>
      rw [textBytes] at done
      rw [done] at accepted
      cases ((accept false).mp accepted).2
    | some result =>
      have succeeded := done
      rw [textBytes] at succeeded
      rw [succeeded] at accepted ⊢
      have chosen := ((accept true).mp accepted).1
      have same := wanted.symm.trans (text chosen)
      cases same
      refine ⟨_, chosen, ?_, done, ipNatFtp_seq chosen⟩
      rw [expected, dstPort_assigned chosen]

end Packet

/-! ## `help` -/

section Help

variable {env : HelpEnv} {ct : Conntrack} {dir : Dir} {lines : NlSeqs} {natSeq : NatSeq}
  {data : List UInt8} {fresh : FtpExpect} {established : Bool}

end Help

/-- A packet with the payload `PORT 192,168,0,2,4,1`. -/
def portCommand : List UInt8 :=
  [0x45, 0x00, 0x00, 0x3e, 0x00, 0x01, 0x00, 0x00, 0x40, 0x06, 0x66, 0xb0, 0x0a, 0x00, 0x00, 0x01,
    0x0a, 0x00, 0x00, 0x09, 0x10, 0x01, 0x00, 0x15, 0x00, 0x00, 0x00, 0x65, 0x00, 0x00, 0x04, 0x4c,
    0x50, 0x18, 0x04, 0x00, 0x66, 0xa4, 0x00, 0x00, 0x50, 0x4f, 0x52, 0x54, 0x20, 0x31, 0x39, 0x32,
    0x2c, 0x31, 0x36, 0x38, 0x2c, 0x30, 0x2c, 0x32, 0x2c, 0x34, 0x2c, 0x31, 0x0d, 0x0a]

/-- Every port is free, and the packet can be written. -/
def freeEnv : HelpEnv where
  loose := false
  alloc := true
  hook := some ⟨false, fun _ _ => 0, fun _ => 0, true⟩
  related _ := 0
  mangle := ⟨fun _ => true, 0, true⟩

/-- What is remembered of a line that ended before the packet. -/
def lineBefore : NlSeqs := ⟨[101], Nat.le_succ 1⟩

end Fvs318g.Verif.FtpHelper
