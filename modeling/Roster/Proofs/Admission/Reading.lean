import Roster.Admission.Joiner
import Roster.Proofs.Group.Reachable
import Roster.Proofs.Text.Decimal

/-!
# What a joiner takes a reply for

A joiner goes on with a group that it can read and that lists it, and takes a verdict with two
versions and a reason for a refusal. No other reply means either.
-/

namespace Roster

namespace Reply

theorem cut_of_free {w : String} (free : ' ' ∉ w.toList) (rest : String) :
    cut (w ++ (" " ++ rest)) = (w, rest) := by
  have passes : ∀ c ∈ w.toList, (c != ' ') = true := by
    intro c mem
    refine bne_iff_ne.mpr ?_
    rintro rfl
    exact free mem
  have spaced : (w ++ (" " ++ rest)).toList = w.toList ++ ' ' :: rest.toList := by simp
  rw [cut, spaced]
  simp [List.takeWhile_append_of_pos passes, List.dropWhile_append_of_pos passes]

theorem cut_eq_iff {s w rest : String} (something : rest ≠ "") :
    cut s = (w, rest) ↔ ' ' ∉ w.toList ∧ s = w ++ (" " ++ rest) := by
  constructor
  · intro h
    obtain ⟨front, back⟩ := Prod.mk.inj h
    have word : w.toList = s.toList.takeWhile (· != ' ') := by rw [← front, String.toList_ofList]
    have left : rest.toList = (s.toList.dropWhile (· != ' ')).drop 1 := by rw [← back, String.toList_ofList]
    constructor
    · rw [word]
      intro mem
      exact absurd (List.all_eq_true.mp List.all_takeWhile ' ' mem) (by decide)
    · -- something is left behind the space, so there is one
      cases split : s.toList.dropWhile (· != ' ') with
      | nil =>
        rw [split] at left
        exact absurd (String.toList_eq_nil_iff.mp left) something
      | cons c more =>
        have space : c = ' ' := by
          have stops := List.head?_dropWhile_not (· != ' ') s.toList
          simpa [split] using stops
        rw [split, List.drop_one, List.tail_cons] at left
        apply String.toList_injective
        have whole := List.takeWhile_append_dropWhile (p := (· != ' ')) (l := s.toList)
        rw [split, ← word, ← left, space] at whole
        rw [← whole]
        simp
  · rintro ⟨free, rfl⟩
    exact cut_of_free free rest

/-- The reply hands out a group that lists the name. -/
inductive Gives (name : String) : String → Group → Prop
  | listing {number stream : String} {format : FormatVersion} {g : Group}
      (named : Decimal.parseUInt16 number = .ok format.code) (read : Group.ofStreamAt stream format = .ok g)
      (listed : (g.find? name).isSome = true) : Gives name ("GROUP " ++ number ++ " " ++ stream) g

/-- The reply is a refusal for a stream version and the format of a group. -/
inductive Refuses : String → UInt32 → UInt16 → String → Prop
  | verdict {first second reason : String} {stream : UInt32} {format : UInt16}
      (announced : Decimal.parseUInt32 first = .ok stream) (served : Decimal.parseUInt16 second = .ok format)
      (told : (trim reason).isEmpty = false) :
      Refuses ("INCOMPATIBLE " ++ first ++ " " ++ second ++ " " ++ reason) stream format reason

section Groups

variable {name rest : String} {g : Group}

theorem groupListing_eq_ok_iff : groupListing name rest = .ok g ↔ ∃ number stream format,
    cut rest = (number, stream) ∧ Decimal.parseUInt16 number = .ok (FormatVersion.code format) ∧
      Group.ofStreamAt stream format = .ok g ∧ (g.find? name).isSome = true := by
  rw [groupListing]
  cases split : cut rest with | mk number stream
  constructor
  · intro h
    obtain ⟨code, named, h⟩ := bind_eq_ok_iff.mp h
    obtain ⟨format, known, h⟩ := bind_eq_ok_iff.mp h
    obtain ⟨g', read, h⟩ := bind_eq_ok_iff.mp h
    have code : code = format.code := FormatVersion.ofCode_eq_ok_iff.mp (mapError_eq_ok_iff.mp known)
    split at h
    · cases h
      exact ⟨number, stream, format, rfl, code ▸ mapError_eq_ok_iff.mp named, mapError_eq_ok_iff.mp read, ‹_›⟩
    · cases h
  · rintro ⟨_, _, format, same, named, read, listed⟩
    cases same
    have known : (FormatVersion.ofCode format.code).mapError AdmissionError.stream = .ok format :=
      mapError_eq_ok_iff.mpr (FormatVersion.ofCode_eq_ok_iff.mpr rfl)
    exact bind_eq_ok_iff.mpr ⟨_, mapError_eq_ok_iff.mpr named, bind_eq_ok_iff.mpr ⟨_, known,
      bind_eq_ok_iff.mpr ⟨_, mapError_eq_ok_iff.mpr read, if_pos listed⟩⟩⟩

/-- What is wrong with a group is never said by its sender. -/
theorem groupListing_ne_refused (stream : UInt32) (format : UInt16) (reason : String) :
    groupListing name rest ≠ .error (.refused stream format reason) := by
  intro h
  rw [groupListing] at h
  rcases bind_eq_error_iff.mp h with failed | ⟨code, -, h⟩
  · obtain ⟨fault, -, same⟩ := mapError_eq_error_iff.mp failed
    cases same
  rcases bind_eq_error_iff.mp h with failed | ⟨known, -, h⟩
  · obtain ⟨e, -, same⟩ := mapError_eq_error_iff.mp failed
    cases same
  rcases bind_eq_error_iff.mp h with failed | ⟨g, -, h⟩
  · obtain ⟨e, -, same⟩ := mapError_eq_error_iff.mp failed
    cases same
  · split at h
    · cases h
    · cases h

end Groups

theorem refusal_eq_refused_iff {rest reason : String} {stream : UInt32} {format : UInt16} :
    refusal rest = .refused stream format reason ↔ ∃ first second more,
      cut rest = (first, more) ∧ cut more = (second, reason) ∧
        Decimal.parseUInt32 first = .ok stream ∧ Decimal.parseUInt16 second = .ok format ∧
        (trim reason).isEmpty = false := by
  rw [refusal]
  cases front : cut rest with | mk first more
  cases back : cut more with | mk second told
  simp only [back]
  constructor
  · intro h
    split at h
    · rename_i announced served
      split_ifs at h with blank
      cases h
      exact ⟨first, second, more, rfl, back, announced, served, Bool.eq_false_iff.mpr blank⟩
    · cases h
  · rintro ⟨_, _, _, same, same', announced, served, shown⟩
    cases same
    cases back.symm.trans same'
    simp only [announced, served, if_neg (Bool.eq_false_iff.mp shown)]

theorem spelled_group (number stream : String) :
    "GROUP " ++ number ++ " " ++ stream = "GROUP" ++ (" " ++ (number ++ (" " ++ stream))) := by
  have kind : "GROUP " = "GROUP" ++ " " := by decide
  simp only [kind, String.append_assoc]

theorem spelled_refusal (first second reason : String) :
    "INCOMPATIBLE " ++ first ++ " " ++ second ++ " " ++ reason =
      "INCOMPATIBLE" ++ (" " ++ (first ++ (" " ++ (second ++ (" " ++ reason))))) := by
  have kind : "INCOMPATIBLE " = "INCOMPATIBLE" ++ " " := by decide
  simp only [kind, String.append_assoc]

/-- A joiner goes on with a group exactly if the reply hands it out. -/
theorem readGroup_eq_ok_iff {name reply : String} {g : Group} :
    readGroup name reply = .ok g ↔ Gives name reply g := by
  constructor
  · intro h
    rw [readGroup] at h
    cases split : cut reply with | mk kind rest
    rw [split] at h
    simp only at h
    split_ifs at h with group
    subst group
    obtain ⟨number, stream, format, fields, named, read, listed⟩ := groupListing_eq_ok_iff.mp h
    have something : stream ≠ "" := by
      rintro rfl
      obtain ⟨_, read, -⟩ := bind_eq_ok_iff.mp read
      cases read
    obtain ⟨-, rfl⟩ := (cut_eq_iff something).mp fields
    obtain ⟨-, rfl⟩ := (cut_eq_iff (by simp)).mp split
    rw [← spelled_group]
    exact .listing named read listed
  · rintro ⟨named, read, listed⟩
    rename_i number stream format
    have free := Decimal.space_free_of_parse named
    rw [spelled_group, readGroup, cut_of_free (by decide)]
    refine (if_pos rfl).trans (groupListing_eq_ok_iff.mpr ?_)
    exact ⟨number, stream, format, cut_of_free free stream, named, read, listed⟩

/-- A joiner has been refused exactly if the reply says so. -/
theorem readGroup_eq_refused_iff {name reply reason : String} {stream : UInt32} {format : UInt16} :
    readGroup name reply = .error (.refused stream format reason) ↔ Refuses reply stream format reason := by
  constructor
  · intro h
    rw [readGroup] at h
    cases split : cut reply with | mk kind rest
    rw [split] at h
    simp only at h
    split_ifs at h with group incompatible error
    · exact absurd h (groupListing_ne_refused stream format reason)
    · subst incompatible
      obtain ⟨first, second, more, front, back, announced, served, told⟩ :=
        refusal_eq_refused_iff.mp (Except.error.inj h)
      have something : reason ≠ "" := by
        rintro rfl
        exact absurd told (by decide)
      obtain ⟨-, rfl⟩ := (cut_eq_iff something).mp back
      obtain ⟨-, rfl⟩ := (cut_eq_iff (by simp)).mp front
      obtain ⟨-, rfl⟩ := (cut_eq_iff (by simp)).mp split
      rw [← spelled_refusal]
      exact .verdict announced served told
    · cases h
    · cases h
  · rintro ⟨announced, served, told⟩
    rename_i first second
    rw [spelled_refusal, readGroup, cut_of_free (by decide)]
    refine (if_neg (by decide)).trans ((if_pos rfl).trans (congrArg Except.error ?_))
    refine refusal_eq_refused_iff.mpr ⟨first, second, _, cut_of_free ?_ _, cut_of_free ?_ _, announced, served, told⟩
    · exact Decimal.space_free_of_parse announced
    · exact Decimal.space_free_of_parse served

variable {name reply : String} {g : Group}

theorem Gives.listed (h : Gives name reply g) : (g.find? name).isSome = true := by
  cases h with
  | listing _ _ listed => exact listed

/-- A group that has been handed out can come about, and it can be written. -/
theorem Gives.sound (h : Gives name reply g) : g.Reachable ∧ g.Writable g.format := by
  cases h with
  | listing _ read _ =>
    obtain ⟨sent, ofStream, declared⟩ := bind_eq_ok_iff.mp read
    obtain ⟨wf, written⟩ := Group.ofStream_eq_ok_iff.mp ofStream
    have writable : sent.Writable sent.format := Group.exists_streamAt_iff.mp ⟨_, written⟩
    split at declared
    · cases declared
      exact ⟨.read ofStream, writable⟩
    · exact ⟨.step (.read ofStream) (.convert _ declared), writable.convert wf declared⟩

end Reply

end Roster
