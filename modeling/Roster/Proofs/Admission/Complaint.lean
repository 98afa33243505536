import Mathlib.Algebra.Order.BigOperators.Group.List
import Mathlib.Algebra.Order.Group.Nat
import Roster.Proofs.Admission.Reply

/-!
# Complaints about what is read and written

A reader names the field at fault and a writer counts bytes, and both say it on one line. So does
the answer to a request that cannot be read, since a word of the request has no blanks in it. A reader
also stays within what it reads: the places and counts that it complains of do.
-/

namespace Roster

namespace Line

theorem plain_nat (n : Nat) : Plain (toString n) := plain_of_isWord (Decimal.isWord_repr n)

end Line

theorem FormatVersion.plain_text (format : FormatVersion) : Line.Plain format.text :=
  Line.plain_of_isWord format.isWord_text.1

namespace TokenFault

variable {field : String}

theorem plain_notHex (byte : UInt8) (offset : Nat) : Line.Plain (notHex byte offset).message := by
  have digits : Line.Plain (Hex.text [byte]) := by
    refine Line.plain_of_isWord ⟨by simp [Hex.text], fun c mem => ?_⟩
    rw [Hex.text, String.toList_ofList] at mem
    exact Hex.isVisible_of_isDigit (Hex.isDigit_of_mem_encode mem)
  change Line.Plain ("byte 0x" ++ Hex.text [byte] ++ " at offset " ++ toString offset ++
    " is not lowercase hex")
  simp only [Line.plain_append_iff]
  exact ⟨⟨⟨⟨by decide, digits⟩, by decide⟩, Line.plain_nat offset⟩, by decide⟩

theorem plain_oddLength (digits : Nat) : Line.Plain (oddLength digits).message :=
  Line.plain_append_iff.mpr ⟨by decide, Line.plain_nat digits⟩

theorem plain_truncated (plain : Line.Plain field) (offset : Nat) :
    Line.Plain (truncated field offset).message := by
  change Line.Plain ("truncated reading " ++ field ++ " at offset " ++ toString offset)
  simp only [Line.plain_append_iff]
  exact ⟨⟨⟨by decide, plain⟩, by decide⟩, Line.plain_nat offset⟩

theorem plain_notBoolean (plain : Line.Plain field) (value : UInt8) :
    Line.Plain (notBoolean field value).message := by
  change Line.Plain (field ++ " is not a boolean: " ++ toString value)
  simp only [Line.plain_append_iff]
  exact ⟨⟨plain, by decide⟩, Line.plain_nat value.toNat⟩

theorem plain_notUtf8 (plain : Line.Plain field) : Line.Plain (notUtf8 field).message :=
  Line.plain_append_iff.mpr ⟨plain, by decide⟩

theorem plain_trailing (count : Nat) : Line.Plain (trailing count).message :=
  Line.plain_append_iff.mpr ⟨Line.plain_nat count, by decide⟩

end TokenFault

namespace StreamError

theorem plain_malformedToken {fault : TokenFault} (plain : Line.Plain fault.message) (index : Nat) :
    Line.Plain (malformedToken index fault).message := by
  change Line.Plain ("corrupt stream: token " ++ toString index ++ ": " ++ fault.message)
  simp only [Line.plain_append_iff]
  exact ⟨⟨⟨by decide, Line.plain_nat index⟩, by decide⟩, plain⟩

theorem plain_corrupt (cause : Corruption) : Line.Plain (corrupt cause).message := by
  refine Line.plain_append_iff.mpr ⟨by decide, ?_⟩
  cases cause with
  | notOneToken count => exact Line.plain_append_iff.mpr ⟨by decide, Line.plain_nat count⟩
  | textTooLong bytes =>
    change Line.Plain ("string of " ++ toString bytes ++ " bytes exceeds field limit")
    simp only [Line.plain_append_iff]
    exact ⟨⟨by decide, Line.plain_nat bytes⟩, by decide⟩
  | _ => decide

theorem plain_unsupportedVersion (version : UInt16) : Line.Plain (unsupportedVersion version).message := by
  change Line.Plain ("format version " ++ toString version ++ " is outside the supported range [" ++
    FormatVersion.oldest.text ++ ", " ++ FormatVersion.newest.text ++ "]")
  simp only [Line.plain_append_iff]
  exact ⟨⟨⟨⟨⟨⟨by decide, Line.plain_nat version.toNat⟩, by decide⟩, by decide⟩, by decide⟩, by decide⟩,
    by decide⟩

theorem plain_secondaryUnsupported (format : FormatVersion) (count : Nat) :
    Line.Plain (secondaryUnsupported format count).message := by
  change Line.Plain ("format version " ++ format.text ++ " predates secondary nodes but the group has " ++
    toString count ++ " secondary node(s)")
  simp only [Line.plain_append_iff]
  exact ⟨⟨⟨⟨by decide, format.plain_text⟩, by decide⟩, Line.plain_nat count⟩, by decide⟩

theorem plain_unknownNodeType (code : UInt8) (format : FormatVersion) :
    Line.Plain (unknownNodeType code format).message := by
  change Line.Plain ("node type code " ++ toString code ++ " is not defined at format version " ++
    format.text)
  simp only [Line.plain_append_iff]
  exact ⟨⟨⟨by decide, Line.plain_nat code.toNat⟩, by decide⟩, format.plain_text⟩

end StreamError

/-- The name of a field of a record or a request. -/
def IsField (name : String) : Prop := Line.Plain name ∧ Utf8.size name ≤ 20

instance (name : String) : Decidable (IsField name) := inferInstanceAs (Decidable (_ ∧ _))

/-- The fault names a field at most, and what it counts is within a bound. -/
def TokenFault.Within (bound : Nat) : TokenFault → Prop
  | .notHex _ offset => offset ≤ bound
  | .empty => True
  | .oddLength digits => digits ≤ bound
  | .truncated field offset => IsField field ∧ offset ≤ bound
  | .notBoolean field _ | .notUtf8 field => IsField field
  | .trailing count => count ≤ bound
  | .idAboveSequence .. | .outOfOrder .. => False

/-- What can be wrong with a stream of one node. -/
def StreamError.Within (bound : Nat) : StreamError → Prop
  | .malformedToken index fault => index ≤ bound ∧ fault.Within bound
  | .corrupt (.notOneToken count) => count ≤ bound
  | .secondaryUnsupported _ count => count = 1
  | .corrupt .emptyStream | .unsupportedVersion _ | .unknownNodeType .. => True
  | _ => False

theorem TokenFault.Within.plain {bound : Nat} {fault : TokenFault} (h : fault.Within bound) :
    Line.Plain fault.message := by
  cases fault with
  | notHex byte offset => exact plain_notHex byte offset
  | empty => decide
  | oddLength digits => exact plain_oddLength digits
  | truncated field offset => exact plain_truncated h.1.1 offset
  | notBoolean field value => exact plain_notBoolean h.1 value
  | notUtf8 field => exact plain_notUtf8 h.1
  | trailing count => exact plain_trailing count
  | idAboveSequence | outOfOrder => exact h.elim

theorem StreamError.Within.plain {bound : Nat} {e : StreamError} (h : e.Within bound) : Line.Plain e.message := by
  cases e with
  | unsupportedVersion version => exact plain_unsupportedVersion version
  | tokenCount declared actual => exact h.elim
  | malformedToken index fault => exact plain_malformedToken h.2.plain index
  | corrupt cause => exact plain_corrupt cause
  | secondaryUnsupported format count => exact plain_secondaryUnsupported format count
  | unknownNodeType code format => exact plain_unknownNodeType code format

theorem NodeType.within_ofCode {format : FormatVersion} {code : UInt8} {e : StreamError}
    (h : NodeType.ofCode format code = .error e) (bound : Nat) : e.Within bound := by
  rw [NodeType.ofCode] at h
  split at h
  · cases h
    trivial
  · split at h
    · cases h
    · cases h
      rfl

/-- The place is in a token of at most so many bytes. -/
structure Cursor.Within (bound : Nat) (c : Cursor) : Prop where
  index : c.index ≤ bound
  bytes : c.offset + c.rest.length ≤ bound

namespace Reader

variable {α β : Type} {bound : Nat} {field : String}

/-- The reader stays within a bound, and so does whatever it complains of. -/
def StaysWithin (bound : Nat) (r : Reader α) : Prop :=
  ∀ c result c', c.Within bound → r.continueFrom c = (result, c') →
    c'.Within bound ∧ ∀ e, result = .error e → e.Within bound

theorem staysWithin_pure (a : α) : StaysWithin bound (pure a) := by
  intro c result c' within h
  cases h
  exact ⟨within, fun e failed => nomatch failed⟩

theorem StaysWithin.bind {r : Reader α} {f : α → Reader β} (hr : r.StaysWithin bound)
    (hf : ∀ a, (f a).StaysWithin bound) : (r >>= f).StaysWithin bound := by
  intro c result c' within h
  rw [continueFrom_bind] at h
  rcases first : r.continueFrom c with ⟨cause | a, middle⟩
  · rw [first] at h
    cases h
    obtain ⟨still, told⟩ := hr c _ _ within first
    refine ⟨still, fun e failed => ?_⟩
    cases failed
    exact told cause rfl
  · rw [first] at h
    exact hf a middle result c' (hr c _ _ within first).1 h

theorem staysWithin_fail {fault : TokenFault} (told : fault.Within bound) :
    StaysWithin bound (fail fault : Reader α) := by
  intro c result c' within h
  cases h
  refine ⟨within, fun e failed => ?_⟩
  cases failed
  exact ⟨within.index, told⟩

theorem staysWithin_ofExcept {result : Except StreamError α} (told : ∀ e, result = .error e → e.Within bound) :
    StaysWithin bound (MonadExcept.ofExcept result) := by
  intro c read c' within h
  cases result with
  | ok a =>
    cases h
    exact ⟨within, fun e failed => nomatch failed⟩
  | error cause =>
    cases h
    refine ⟨within, fun e failed => ?_⟩
    cases failed
    exact told cause rfl

theorem staysWithin_bytes (named : IsField field) (n : Nat) : StaysWithin bound (bytes n field) := by
  rintro ⟨index, offset, rest⟩ result c' ⟨inside, left⟩ h
  rw [continueFrom_bytes] at h
  have left : offset + rest.length ≤ bound := left
  split at h
  · cases h
    refine ⟨⟨inside, ?_⟩, fun e failed => nomatch failed⟩
    show offset + n + (rest.drop n).length ≤ bound
    rw [List.length_drop]
    omega
  · cases h
    refine ⟨⟨inside, left⟩, fun e failed => ?_⟩
    cases failed
    exact ⟨inside, named, Nat.le_of_add_right_le left⟩

theorem staysWithin_u8 (named : IsField field) : StaysWithin bound (u8 field) :=
  (staysWithin_bytes named 1).bind fun _ => staysWithin_pure _

theorem staysWithin_u16 (named : IsField field) : StaysWithin bound (u16 field) :=
  (staysWithin_bytes named 2).bind fun _ => staysWithin_pure _

theorem staysWithin_u32 (named : IsField field) : StaysWithin bound (u32 field) :=
  (staysWithin_bytes named 4).bind fun _ => staysWithin_pure _

theorem staysWithin_bool (named : IsField field) : StaysWithin bound (bool field) := by
  refine (staysWithin_u8 named).bind fun n => ?_
  split
  · exact staysWithin_pure false
  · split
    · exact staysWithin_pure true
    · exact staysWithin_fail named

theorem staysWithin_text (named : IsField field) : StaysWithin bound (text field) := by
  refine (staysWithin_u16 named).bind fun size => (staysWithin_bytes named size.toNat).bind fun raw => ?_
  split
  · exact staysWithin_pure _
  · exact staysWithin_fail named

theorem staysWithin_optionalText (named : IsField field) : StaysWithin bound (optionalText field) := by
  refine (staysWithin_bool named).bind fun given => ?_
  split
  · exact (staysWithin_text named).bind fun s => staysWithin_pure _
  · exact staysWithin_pure _

theorem staysWithin_finish : StaysWithin bound finish := by
  rintro ⟨index, offset, rest⟩ result c' within h
  cases rest with
  | nil =>
    cases h
    exact ⟨within, fun e failed => nomatch failed⟩
  | cons b rest =>
    cases h
    refine ⟨within, fun e failed => ?_⟩
    cases failed
    exact ⟨within.index, Nat.le_of_add_left_le within.bytes⟩

theorem StaysWithin.token {r : Reader α} (hr : r.StaysWithin bound) {index : Nat} {bytes : List UInt8}
    {e : StreamError} (inside : index ≤ bound) (size : bytes.length ≤ bound)
    (h : r.token index bytes = .error e) : e.Within bound :=
  (hr (Cursor.start index bytes) _ _ ⟨inside, (Nat.zero_add _).symm ▸ size⟩ rfl).2 e h

end Reader

namespace Writer

/-- Whatever the writer complains of, it says on one line. -/
def TellsPlainly (w : Writer Unit) : Prop :=
  ∀ before e after, w.extend before = (.error e, after) → Line.Plain e.message

theorem tellsPlainly_bytes (bs : List UInt8) : TellsPlainly (bytes bs) := by
  intro before e after h
  cases h

theorem TellsPlainly.bind {v w : Writer Unit} (hv : v.TellsPlainly) (hw : w.TellsPlainly) :
    (v >>= fun _ => w).TellsPlainly := by
  intro before e after h
  rw [extend_bind] at h
  rcases first : v.extend before with ⟨cause | _, middle⟩
  · rw [first] at h
    cases h
    exact hv before e after first
  · rw [first] at h
    exact hw middle e after h

theorem tellsPlainly_text (s : String) : TellsPlainly (text s) := by
  rw [text]
  split
  · exact (tellsPlainly_bytes _).bind (tellsPlainly_bytes _)
  · intro before e after h
    cases h
    exact StreamError.plain_corrupt _

theorem tellsPlainly_optionalText (o : Option String) : TellsPlainly (optionalText o) := by
  cases o with
  | none => exact tellsPlainly_bytes _
  | some s => exact (tellsPlainly_bytes _).bind (tellsPlainly_text s)

theorem TellsPlainly.record {w : Writer Unit} (hw : w.TellsPlainly) {e : StreamError}
    (h : w.record = .error e) : Line.Plain e.message := by
  rw [Writer.record] at h
  rcases written : w.extend [] with ⟨cause | _, after⟩
  · rw [written] at h
    cases h
    exact hw [] e after written
  · rw [written] at h
    cases h

end Writer

namespace Node

theorem tellsPlainly_write (n : Node) (format : FormatVersion) : (n.write format).TellsPlainly := by
  have last : Writer.TellsPlainly (if format.carriesSoftware then Writer.optionalText n.software
      else pure ()) := by
    split
    · exact Writer.tellsPlainly_optionalText n.software
    · intro before e after h
      cases h
  exact (Writer.tellsPlainly_text _).bind ((Writer.tellsPlainly_bytes _).bind
    ((Writer.tellsPlainly_bytes _).bind ((Writer.tellsPlainly_text _).bind
      ((Writer.tellsPlainly_bytes _).bind ((Writer.tellsPlainly_bytes _).bind
        ((Writer.tellsPlainly_bytes _).bind last))))))

theorem staysWithin_read (format : FormatVersion) (bound : Nat) : (read format).StaysWithin bound := by
  refine (Reader.staysWithin_text (by decide)).bind fun name =>
    (Reader.staysWithin_u32 (by decide)).bind fun id =>
    (Reader.staysWithin_u8 (by decide)).bind fun code =>
    (Reader.staysWithin_ofExcept fun _ unknown => NodeType.within_ofCode unknown bound).bind fun kind =>
    (Reader.staysWithin_text (by decide)).bind fun host =>
    (Reader.staysWithin_u16 (by decide)).bind fun port =>
    (Reader.staysWithin_bool (by decide)).bind fun removed =>
    (Reader.staysWithin_u32 (by decide)).bind fun change => ?_
  split
  · exact (Reader.staysWithin_optionalText (by decide)).bind fun software =>
      Reader.staysWithin_finish.bind fun _ => Reader.staysWithin_pure _
  · exact (Reader.staysWithin_pure none).bind fun software =>
      Reader.staysWithin_finish.bind fun _ => Reader.staysWithin_pure _

end Node

theorem Header.tellsPlainly_write (h : Header) : h.write.TellsPlainly :=
  (Writer.tellsPlainly_bytes _).bind ((Writer.tellsPlainly_text _).bind ((Writer.tellsPlainly_bytes _).bind
    ((Writer.tellsPlainly_bytes _).bind ((Writer.tellsPlainly_bytes _).bind (Writer.tellsPlainly_bytes _)))))

namespace TokenStream

theorem within_faultOf {bound offset : Nat} {digits : List Char} (inside : offset + digits.length ≤ bound) :
    (faultOf offset digits).Within bound := by
  rw [faultOf]
  split
  · exact Nat.le_trans (Nat.add_le_add_left (List.takeWhile_sublist _).length_le offset) inside
  · split
    · trivial
    · exact Nat.le_of_add_left_le inside

/-- No more tokens are done than characters have been passed. -/
theorem within_decodeOnto {bound offset : Nat} {done : List (List UInt8)} {ps : List (List Char)} {e : StreamError}
    (passed : done.length ≤ offset) (left : offset + (ps.map fun p => p.length + 1).sum ≤ bound + 1)
    (h : decodeOnto done offset ps = .error e) : e.Within bound := by
  induction ps generalizing done offset with
  | nil => cases h
  | cons piece rest ih =>
    rw [List.map_cons, List.sum_cons] at left
    rw [decodeOnto, decodeToken] at h
    split at h
    · refine ih ?_ ?_ h
      · rw [List.length_cons]
        omega
      · omega
    · rename_i fault failed
      split at failed
      · cases failed
      · cases failed
        cases h
        exact ⟨by omega, within_faultOf (by omega)⟩

theorem within_decode {bound : Nat} {stream : String} {e : StreamError} (short : stream.toList.length ≤ bound)
    (h : decode stream = .error e) : e.Within bound := by
  rw [decode] at h
  split at h
  · cases h
    trivial
  · refine within_decodeOnto (Nat.le_refl 0) ?_ h
    rw [sum_length_pieces]
    omega

theorem length_le_of_decode {stream : String} {tokens : List (List UInt8)} (h : decode stream = .ok tokens) :
    tokens.length ≤ stream.toList.length ∧ ∀ token ∈ tokens, token.length ≤ stream.toList.length := by
  obtain ⟨some, full, rfl⟩ := decode_eq_ok_iff.mp h
  obtain ⟨first, rest, rfl⟩ := List.exists_cons_of_ne_nil some
  have positive := List.length_pos_iff.mpr (full first List.mem_cons_self)
  rw [length_encode]
  have count : rest.length ≤ (rest.map fun token => 1 + 2 * token.length).sum := by
    have each := List.length_le_sum_of_one_le (rest.map fun token => 1 + 2 * token.length) fun n mem => by
      obtain ⟨token, -, rfl⟩ := List.mem_map.mp mem
      exact Nat.le_add_right 1 _
    rwa [List.length_map] at each
  refine ⟨?_, List.forall_mem_cons.mpr ⟨by omega, fun token mem => ?_⟩⟩
  · rw [List.length_cons]
    omega
  · have part := List.le_sum_of_mem (List.mem_map_of_mem (f := fun t : List UInt8 => 1 + 2 * t.length) mem)
    omega

end TokenStream

theorem Node.within_ofToken {bound : Nat} {token : String} {format : FormatVersion} {e : StreamError}
    (short : token.toList.length ≤ bound) (h : Node.ofToken token format = .error e) : e.Within bound := by
  rcases bind_eq_error_iff.mp h with undecoded | ⟨tokens, decoded, h⟩
  · exact TokenStream.within_decode short undecoded
  · obtain ⟨count, each⟩ := TokenStream.length_le_of_decode decoded
    split at h
    · exact (Node.staysWithin_read format bound).token (Nat.zero_le _)
        (Nat.le_trans (each _ (List.mem_singleton_self _)) short) h
    · cases h
      exact Nat.le_trans count short

theorem Group.plain_stream {g : Group} {e : StreamError} (h : g.stream = .error e) :
    Line.Plain e.message := by
  have failed : g.tokens g.format = .error e := by
    rw [stream, streamAt] at h
    cases written : g.tokens g.format with
    | ok tokens =>
      rw [written] at h
      cases h
    | error cause =>
      rw [written] at h
      cases h
      rfl
  rcases bind_eq_error_iff.mp failed with unfit | ⟨-, -, failed⟩
  · rw [checkFormat] at unfit
    split at unfit
    · cases unfit
    · cases unfit
      exact StreamError.plain_secondaryUnsupported _ _
  rcases guard_bind_eq_error_iff.mp failed with ⟨-, rfl⟩ | ⟨-, failed⟩
  · exact StreamError.plain_corrupt _
  rcases bind_eq_error_iff.mp failed with header | ⟨_, -, failed⟩
  · exact (Header.tellsPlainly_write _).record header
  rcases bind_eq_error_iff.mp failed with records | ⟨_, -, failed⟩
  · obtain ⟨n, -, record⟩ := mapM_eq_error records
    exact (n.tellsPlainly_write g.format).record record
  · cases failed

theorem plain_of_mem_words {line word : String} (h : word ∈ words line) : Line.Plain word := by
  obtain ⟨piece, mem, rfl⟩ := List.mem_map.mp h
  have shown := free_of_mem_pieces (List.mem_filter.mp mem).1
  rw [Line.Plain, String.toList_ofList]
  intro c hc
  constructor
  · rintro rfl
    exact absurd (shown _ hc) (by decide)
  · rintro rfl
    exact absurd (shown _ hc) (by decide)

theorem length_of_mem_words {line word : String} (h : word ∈ words line) :
    word.toList.length ≤ line.toList.length := by
  obtain ⟨piece, mem, rfl⟩ := List.mem_map.mp h
  rw [String.toList_ofList]
  have part := List.le_sum_of_mem
    (List.mem_map_of_mem (f := fun p : List Char => p.length + 1) (List.mem_filter.mp mem).1)
  rw [sum_length_pieces] at part
  omega

theorem NumberFault.plain_message (fault : NumberFault) : Line.Plain fault.message := by
  cases fault <;> decide

/-- What can be wrong with the words of a request. -/
def ProtocolFault.Told : ProtocolFault → Prop
  | .unknownRequest word => Line.Plain word
  | .missingField what => IsField what
  | .emptyRequest | .badStreamVersion _ | .badTokenFormat _ | .trailingArguments => True
  | _ => False

/-- What can be wrong with a request of so many characters. -/
def AdmissionError.Within (bound : Nat) : AdmissionError → Prop
  | .protocol fault => fault.Told
  | .stream cause => cause.Within bound
  | _ => False

theorem ProtocolFault.Told.plain {fault : ProtocolFault} (h : fault.Told) : Line.Plain fault.message := by
  cases fault with
  | unknownRequest word => exact Line.plain_append_iff.mpr ⟨by decide, h⟩
  | missingField what => exact Line.plain_append_iff.mpr ⟨by decide, h.1⟩
  | badStreamVersion fault | badTokenFormat fault =>
    exact Line.plain_append_iff.mpr ⟨by decide, fault.plain_message⟩
  | emptyRequest | trailingArguments => decide
  | _ => exact h.elim

theorem AdmissionError.Within.plain {bound : Nat} {e : AdmissionError} (h : e.Within bound) :
    Line.Plain e.message := by
  cases e with
  | protocol fault => exact Line.plain_append_iff.mpr ⟨by decide, ProtocolFault.Told.plain h⟩
  | stream cause => exact StreamError.Within.plain h
  | _ => exact h.elim

namespace Request

variable {bound : Nat} {e : AdmissionError}

theorem within_field {what : String} (named : IsField what) {given : List String}
    (h : field what given = .error e) : e.Within bound := by
  cases given with
  | cons word rest => cases h
  | nil =>
    cases h
    exact named

theorem within_parseStream {word : String} (h : parseStream word = .error e) : e.Within bound := by
  obtain ⟨fault, -, rfl⟩ := mapError_eq_error_iff.mp h
  trivial

theorem within_parseFormat {word : String} (h : parseFormat word = .error e) : e.Within bound := by
  rcases bind_eq_error_iff.mp h with digits | ⟨code, -, unknown⟩
  · obtain ⟨fault, -, rfl⟩ := mapError_eq_error_iff.mp digits
    trivial
  · obtain ⟨cause, unsupported, rfl⟩ := mapError_eq_error_iff.mp unknown
    rw [FormatVersion.ofCode] at unsupported
    split at unsupported
    · cases unsupported
    · cases unsupported
      trivial

theorem within_parseJoin {given : List String} (short : ∀ word ∈ given, word.toList.length ≤ bound)
    (h : parseJoin given = .error e) : e.Within bound := by
  rcases bind_eq_error_iff.mp h with missing | ⟨⟨stream, others⟩, first, h⟩
  · exact within_field (by decide) missing
  rcases bind_eq_error_iff.mp h with unread | ⟨_, -, h⟩
  · exact within_parseStream unread
  rcases bind_eq_error_iff.mp h with missing | ⟨⟨format, others'⟩, second, h⟩
  · exact within_field (by decide) missing
  rcases bind_eq_error_iff.mp h with unread | ⟨_, -, h⟩
  · exact within_parseFormat unread
  rcases bind_eq_error_iff.mp h with missing | ⟨⟨token, rest⟩, third, h⟩
  · exact within_field (by decide) missing
  rcases bind_eq_error_iff.mp h with unread | ⟨_, -, h⟩
  · obtain ⟨cause, failed, rfl⟩ := mapError_eq_error_iff.mp unread
    obtain rfl := field_eq_ok_iff.mp first
    obtain rfl := field_eq_ok_iff.mp second
    obtain rfl := field_eq_ok_iff.mp third
    exact Node.within_ofToken
      (short token (List.mem_cons_of_mem _ (List.mem_cons_of_mem _ List.mem_cons_self))) failed
  · split at h
    · cases h
    · cases h
      trivial

/-- What is wrong with a request is told within its length. -/
theorem within_parse {line : String} (h : parse line = .error e) : e.Within line.toList.length := by
  rw [parse] at h
  split at h
  · cases h
    trivial
  · rename_i word rest given
    split at h
    · refine within_parseJoin (fun later mem => ?_) h
      exact length_of_mem_words (given ▸ List.mem_cons_of_mem word mem : later ∈ words line)
    · split at h
      · cases h
      · cases h
        exact plain_of_mem_words (given ▸ List.mem_cons_self : word ∈ words line)

theorem plain_parse {line : String} (h : parse line = .error e) : Line.Plain e.message := (within_parse h).plain

end Request

end Roster
