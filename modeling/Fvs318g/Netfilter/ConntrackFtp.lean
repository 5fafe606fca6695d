import Fvs318g.Lib.Decimal
import Fvs318g.Netfilter.NatFtp
import Fvs318g.Netfilter.SeqAdjust

/-!
# The FTP helper

`ip_conntrack_ftp.c`: the helper reads the control connection for an announced data port, in the
four forms of the table `search`. It looks at a packet only if it starts right behind a line, and
keeps for that the sequence numbers behind the last lines of each direction. The data of a packet
are its bytes; a `char` has no sign here. A number of bytes that stands for failure as 0 is nothing
in the model.
-/

namespace Fvs318g.Netfilter

open Lib Kernel

/-! ## Numbers -/

/-- The loop of `try_number`, with the bytes from `data` on. -/
def numberLoop (arraySize : Nat) (sep term : UInt8) :
    List UInt8 → Nat → Nat → List UInt32 → Option (List UInt32 × Nat)
  | [], _, _, _ => none
  | b :: rest, i, len, array =>
    if i < arraySize then
      if digit b then
        numberLoop arraySize sep term rest i (len + 1)
          (array.modify i fun v => v * 10 + b.toUInt32 - 48)
      else if b = sep then numberLoop arraySize sep term rest (i + 1) (len + 1) array
      else if b = term ∧ i = arraySize - 1 then some (array, len)
      else none
    else none

/-- `try_number`: the numbers and the length. -/
def tryNumber (data : List UInt8) (arraySize : Nat) (sep term : UInt8) :
    Option (List UInt32 × Nat) :=
  numberLoop arraySize sep term data 0 0 (List.replicate arraySize 0)

/-- `try_rfc959`. -/
def tryRfc959 (data : List UInt8) (_array : List UInt32) (term : UInt8) :
    Option (List UInt32 × Nat) :=
  tryNumber data 6 44 term

/-- The loop of `get_port`, with the bytes from the index `i` on. -/
def portLoop (delim : UInt8) : List UInt8 → Nat → UInt16 → Option (UInt16 × Nat)
  | [], _, _ => none
  | b :: rest, i, port =>
    if b = delim then if port = 0 then none else some (port, i + 1)
    else if digit b then portLoop delim rest (i + 1) (port * 10 + b.toUInt16 - 48)
    else none

/-- `get_port`: the two last elements of the array and the length. -/
def getPort (data : List UInt8) (start : Nat) (delim : UInt8) : Option (List UInt32 × Nat) :=
  (portLoop delim (data.drop start) start 0).map fun (port, length) =>
    ([(port >>> 8).toUInt32, port.toUInt32], length)

/-- The tests of a delimiter. -/
def badDelim (delim : UInt8) : Bool := digit delim || delim < 33 || 126 < delim

/-- `try_eprt`. -/
def tryEprt (data : List UInt8) (_array : List UInt32) (_term : UInt8) :
    Option (List UInt32 × Nat) :=
  let delim := data.getD 0 0
  if data.length ≤ 3 then none
  else if badDelim delim ∨ data.getD 1 0 ≠ 49 ∨ data.getD 2 0 ≠ delim then none
  else
    (tryNumber (data.drop 3) 4 46 delim).bind fun address =>
      (getPort data (3 + address.2 + 1) delim).map fun port => (address.1 ++ port.1, port.2)

/-- `try_epsv_response`. -/
def tryEpsvResponse (data : List UInt8) (array : List UInt32) (_term : UInt8) :
    Option (List UInt32 × Nat) :=
  let delim := data.getD 0 0
  if data.length ≤ 3 then none
  else if badDelim delim ∨ data.getD 1 0 ≠ delim ∨ data.getD 2 0 ≠ delim then none
  else (getPort data 3 delim).map fun port => (array.take 4 ++ port.1, port.2)

/-! ## Commands and replies -/

/-- `struct ftp_search`. -/
structure FtpSearch where
  /-- `dir`. -/
  dir : Dir
  /-- `pattern`. -/
  pattern : List UInt8
  /-- `skip`. -/
  skip : UInt8
  /-- `term`. -/
  term : UInt8
  /-- `ftptype`. -/
  ftptype : FtpType
  /-- `getnum`. -/
  getnum : List UInt8 → List UInt32 → UInt8 → Option (List UInt32 × Nat)

/-- The elements of the table, by their type. -/
def FtpType.search : FtpType → FtpSearch
  | .port => ⟨.original, ascii ['P', 'O', 'R', 'T'], 32, 13, .port, tryRfc959⟩
  | .pasv => ⟨.reply, ascii ['2', '2', '7', ' '], 40, 41, .pasv, tryRfc959⟩
  | .eprt => ⟨.original, ascii ['E', 'P', 'R', 'T'], 32, 13, .eprt, tryEprt⟩
  | .epsv => ⟨.reply, ascii ['2', '2', '9', ' '], 40, 41, .epsv, tryEpsvResponse⟩

/-- `search`. -/
def search : List FtpSearch := [FtpType.port, .pasv, .eprt, .epsv].map FtpType.search

/-- What `find_pattern` returns. -/
inductive Found where
  /-- 0. -/
  | noMatch
  /-- -1. -/
  | incomplete
  /-- 1, with `numoff`, `numlen` and the array. -/
  | matched (numoff numlen : Nat) (array : List UInt32)
  deriving DecidableEq, Repr

/-- The loop that skips to a character, with the bytes from the index `i` on: the index behind the
character. -/
def skipTo (skip : UInt8) : List UInt8 → Nat → Option Nat
  | [], _ => none
  | b :: rest, i => if b = skip then some (i + 1) else skipTo skip rest (i + 1)

/-- `find_pattern`. -/
def findPattern (entry : FtpSearch) (array : List UInt32) (data : List UInt8) : Found :=
  let plen := entry.pattern.length
  if data.length = 0 then .noMatch
  else if data.length ≤ plen then
    if strnicmp data entry.pattern data.length = some 0 then .incomplete else .noMatch
  else if strnicmp data entry.pattern plen ≠ some 0 then .noMatch
  else
    match skipTo entry.skip (data.drop plen) plen with
    | none => .incomplete
    | some i =>
      match entry.getnum (data.drop i) array entry.term with
      | none => .incomplete
      | some (array, numlen) => .matched i numlen array

/-- The loop over `search` in `help`: the first entry of the direction that does not return 0. -/
def searchLoop (dir : Dir) (array : List UInt32) (data : List UInt8) :
    List FtpSearch → Option (FtpType × Found)
  | [] => none
  | entry :: rest =>
    if entry.dir ≠ dir then searchLoop dir array data rest
    else
      match findPattern entry array data with
      | .noMatch => searchLoop dir array data rest
      | found => some (entry.ftptype, found)

/-! ## Lines -/

/-- `NUM_SEQ_TO_REMEMBER`. -/
def numSeqToRemember : Nat := 2

/-- The part of `struct ip_ct_ftp_master` for one direction: the first `seq_aft_nl_num` elements of
`seq_aft_nl`. -/
structure NlSeqs where
  /-- The sequence numbers. -/
  seqs : List UInt32
  /-- They fit in the array. -/
  fit : seqs.length ≤ numSeqToRemember

/-- With an entry free one more number fits. -/
theorem NlSeqs.fit_append {seqs : List UInt32} (room : seqs.length < numSeqToRemember)
    (seq : UInt32) : (seqs ++ [seq]).length ≤ numSeqToRemember := by
  rw [List.length_append]
  exact room

/-- `find_nl_seq`. -/
def findNlSeq (seq : UInt32) (info : NlSeqs) : Bool := info.seqs.contains seq

/-- The loop of `update_nl_seq` from the index `i` on: `oldest`, or nothing if the number is there.
A number is compared with the index that was found before. -/
def oldestLoop (num : Nat) (nlSeq : UInt32) : List UInt32 → Nat → Nat → Option Nat
  | [], _, oldest => some oldest
  | s :: rest, i, oldest =>
    if s = nlSeq then none
    else oldestLoop num nlSeq rest (i + 1)
      (if oldest = num ∨ before s (UInt32.ofNat oldest) then i else oldest)

/-- `update_nl_seq`. -/
def updateNlSeq (nlSeq : UInt32) (info : NlSeqs) : NlSeqs :=
  match oldestLoop info.seqs.length nlSeq info.seqs 0 numSeqToRemember with
  | none => info
  | some oldest =>
    if room : info.seqs.length < numSeqToRemember then
      ⟨info.seqs ++ [nlSeq], NlSeqs.fit_append room nlSeq⟩
    else if oldest ≠ numSeqToRemember then
      ⟨info.seqs.set oldest nlSeq, Nat.le_trans (Nat.le_of_eq List.length_set) info.fit⟩
    else info

/-! ## `help` -/

/-- The address in the array, in network order. -/
def arrayIp (array : List UInt32) : UInt32 :=
  htonl (array.getD 0 0 <<< 24 ||| array.getD 1 0 <<< 16 ||| array.getD 2 0 <<< 8 |||
    array.getD 3 0)

/-- The port in the array, in network order. -/
def arrayPort (array : List UInt32) : UInt16 :=
  htons (array.getD 4 0 <<< 8 ||| array.getD 5 0).toUInt16

/-- The array as it is before the search: the address of the sender. -/
def initArray (ip : UInt32) : List UInt32 :=
  [(htonl ip >>> 24) &&& 0xff, (htonl ip >>> 16) &&& 0xff, (htonl ip >>> 8) &&& 0xff,
    htonl ip &&& 0xff, 0, 0]

/-- What the helper meets: the parameter `loose`, whether there is memory for an expectation, what
`ip_nat_ftp` meets if the module is there, and the answer of `ip_conntrack_expect_related` for the
port of an expectation if it is not. -/
structure HelpEnv where
  /-- `loose`. -/
  loose : Bool
  /-- `ip_conntrack_expect_alloc` succeeds. -/
  alloc : Bool
  /-- `ip_nat_ftp_hook`, with what it meets; `mangled` is not read from here. -/
  hook : Option FtpEnv
  /-- `ip_conntrack_expect_related`. -/
  related : UInt16 → Int32
  /-- What `ip_nat_mangle_tcp_packet` meets. -/
  mangle : MangleEnv

/-- The expectation of a call: `tuple`, and the fields that `ip_nat_ftp` writes. The mask covers
everything but the source port. -/
structure HelpExpect where
  /-- `tuple.src.ip`. -/
  srcIp : UInt32
  /-- `tuple.dst.ip`. -/
  dstIp : UInt32
  /-- The port of the destination, and the fields for translation. -/
  ftp : FtpExpect
  deriving DecidableEq, Repr

/-- What one call leaves. -/
structure HelpOutcome where
  /-- The return value. -/
  verdict : Verdict
  /-- The numbers behind lines, for the direction. -/
  lines : NlSeqs
  /-- The packet. -/
  data : List UInt8
  /-- The offsets of the direction. -/
  natSeq : NatSeq
  /-- The expectation that was handed on, if one was. -/
  exp : Option HelpExpect

/-- `ntohl(th->seq)`. -/
def ftpSeq (data : List UInt8) : UInt32 := htonl (get32 data (iphdrLen data 0 + tcphSeq))

/-- `fb_ptr`. -/
def fbPtr (data : List UInt8) : List UInt8 := data.drop (tcpDataoff data)

/-- `ends_in_nl`. -/
def endsInNl (data : List UInt8) : Bool := (fbPtr data).getLast? == some 10

/-- `seq`: the sequence number behind the data. -/
def ftpNextSeq (data : List UInt8) : UInt32 := ftpSeq data + UInt32.ofNat (fbPtr data).length

/-- `ip_nat_ftp` with the packet: `mangled` is what `ip_nat_mangle_tcp_packet` returns for the text,
which does not depend on it. -/
def natFtpPacket (ftpEnv : FtpEnv) (mangleEnv : MangleEnv) (ct : Conntrack) (dir : Dir)
    (type : FtpType) (data : List UInt8) (natSeq : NatSeq) (matchoff matchlen : Nat)
    (exp : FtpExpect) (seq : UInt32) : FtpOutcome × List UInt8 × NatSeq :=
  let wanted := ipNatFtp { ftpEnv with mangled := true } ct dir type matchoff matchlen exp seq
  match wanted.written with
  | none => (wanted, data, natSeq)
  | some (_, _, text) =>
    match ipNatMangleTcpPacket mangleEnv data natSeq matchoff matchlen (ascii text.toList) with
    | some (data', natSeq') => (wanted, data', natSeq')
    | none =>
      (ipNatFtp { ftpEnv with mangled := false } ct dir type matchoff matchlen exp seq, data,
        natSeq)

/-- The end of `help`: the number behind a line is kept. -/
def outUpdateNl (data : List UInt8) (seq : UInt32) (lines : NlSeqs) : NlSeqs :=
  if endsInNl data then updateNlSeq seq lines else lines

/-- `help` from a match on. -/
def helpMatched (env : HelpEnv) (ct : Conntrack) (dir : Dir) (lines : NlSeqs) (natSeq : NatSeq)
    (data : List UInt8) (type : FtpType) (matchoff matchlen : Nat) (array : List UInt32)
    (fresh : FtpExpect) : HelpOutcome :=
  if !env.alloc then ⟨.drop, lines, data, natSeq, none⟩
  else if arrayIp array ≠ (ct.tuplehash dir).src.ip ∧ !env.loose then
    ⟨.accept, outUpdateNl data (ftpNextSeq data) lines, data, natSeq, none⟩
  else
    let dstIp := if arrayIp array ≠ (ct.tuplehash dir).src.ip then arrayIp array
      else (ct.tuplehash dir.flip).dst.ip
    let exp : FtpExpect := { fresh with dstPort := arrayPort array }
    let srcIp := (ct.tuplehash dir.flip).src.ip
    match env.hook with
    | some ftpEnv =>
      let (out, data', natSeq') := natFtpPacket ftpEnv env.mangle ct dir type data natSeq matchoff
        matchlen exp (ftpNextSeq data)
      ⟨out.verdict, outUpdateNl data out.seq lines, data', natSeq', some ⟨srcIp, dstIp, out.exp⟩⟩
    | none =>
      ⟨if env.related exp.dstPort ≠ 0 then .drop else .accept,
        outUpdateNl data (ftpNextSeq data) lines, data, natSeq, some ⟨srcIp, dstIp, exp⟩⟩

/-- `help`, for a packet of an established connection or not; `fresh` is the expectation as
`ip_conntrack_expect_alloc` returns it. -/
def help (env : HelpEnv) (established : Bool) (ct : Conntrack) (dir : Dir) (lines : NlSeqs)
    (natSeq : NatSeq) (data : List UInt8) (fresh : FtpExpect) : HelpOutcome :=
  let passed : HelpOutcome := ⟨.accept, lines, data, natSeq, none⟩
  let unmatched := { passed with lines := outUpdateNl data (ftpNextSeq data) lines }
  if !established then passed
  else if data.length < iphdrLen data 0 + tcphdrSize then passed
  else if data.length ≤ tcpDataoff data then passed
  else if !findNlSeq (ftpSeq data) lines then unmatched
  else
    match searchLoop dir (initArray (ct.tuplehash dir).src.ip) (fbPtr data) search with
    | none => unmatched
    | some (_, .noMatch) => unmatched
    | some (_, .incomplete) => { passed with verdict := .drop }
    | some (type, .matched matchoff matchlen array) =>
      helpMatched env ct dir lines natSeq data type matchoff matchlen array fresh

end Fvs318g.Netfilter
