import EventFeed.Proofs.Text.Numeral
import EventFeed.Proofs.Text.Search
import EventFeed.Proofs.Text.Trim
import EventFeed.Report.Progress

/-!
# Reports of memory writes

A message about a memory write names its values behind keys: the word behind the first occurrence
of a key, and the byte in the first brackets behind the memory address. `WordBehind` and
`ByteBehind` say what these are, and reading a message finds them and nothing else
(`memoryWrite?_eq_some_iff`).

A report is written with its values in their places (`MemoryReport.written`), and reading it gives
them back. The keys are searched in the whole message, so that a value in front of a key must not
hold the key itself; that no key is found across the end of a value is due to the blanks and
brackets between them. What a value may hold besides is free.
-/

namespace EventFeed

/-! ### What messages say -/

namespace Progress

variable {key message word digits cs : List Char}

/-- The word stands behind the first occurrence of the key. It is not empty, and it ends at a blank
or where the message does. -/
def WordBehind (key message word : List Char) : Prop :=
  word ≠ [] ∧ (∀ c ∈ word, Text.isBlank c = false) ∧
    ∃ before after, Text.SplitsFirst key message before (word ++ after) ∧
      ∀ c ∈ after.head?, Text.isBlank c

/-- The characters stand between the first opening bracket and the first closing bracket behind
it. -/
def Bracketed (cs digits : List Char) : Prop :=
  ∃ before after, cs = before ++ '[' :: (digits ++ ']' :: after) ∧ '[' ∉ before ∧ ']' ∉ digits

/-- Behind the first occurrence of the key the value stands in brackets, as a hexadecimal numeral
with blanks around it. -/
def ByteBehind (key message : List Char) (value : UInt8) : Prop :=
  ∃ before after digits, Text.SplitsFirst key message before after ∧ Bracketed after digits ∧
    Text.Denotes 16 (Text.trimBy Text.isBlank digits) value.toNat

/-- The word behind a key is read off what stands behind it. -/
lemma wordAfter?_of_after? {after : List Char} (h : Text.after? key message = some (word ++ after))
    (hne : word ≠ []) (hword : ∀ c ∈ word, Text.isBlank c = false)
    (hafter : ∀ c ∈ after.head?, Text.isBlank c) : wordAfter? key message = some word := by
  have htake : (word ++ after).takeWhile (fun c => !Text.isBlank c) = word := by
    rw [List.takeWhile_append_of_pos (by simpa using hword)]
    cases after with
    | nil => simp
    | cons c after => simp [hafter c rfl]
  rw [wordAfter?, h, Option.map_some, htake, Option.filter_some, if_pos (by simpa using hne)]

/-- The word that is found is the one behind the first occurrence of the key. -/
lemma wordAfter?_eq_some_iff : wordAfter? key message = some word ↔ WordBehind key message word := by
  constructor
  · intro h
    obtain ⟨hword, hne⟩ := Option.filter_eq_some_iff.1 h
    obtain ⟨rest, hrest, rfl⟩ := Option.map_eq_some_iff.1 hword
    obtain ⟨before, hsplit⟩ := Text.after?_eq_some_iff.1 hrest
    refine ⟨by simpa using hne, fun c hc => ?_, before,
      rest.dropWhile fun c => !Text.isBlank c, ?_, fun c hc => ?_⟩
    · simpa using List.mem_takeWhile_imp hc
    · rwa [List.takeWhile_append_dropWhile]
    · have hnot := List.head?_dropWhile_not (fun c => !Text.isBlank c) rest
      rw [Option.mem_def.1 hc] at hnot
      simpa using hnot
  · rintro ⟨hne, hword, before, after, hsplit, hafter⟩
    exact wordAfter?_of_after? (Text.after?_eq_some_iff.2 ⟨before, hsplit⟩) hne hword hafter

lemma bracketed?_eq_some_iff : bracketed? cs = some digits ↔ Bracketed cs digits := by
  simp only [bracketed?, Text.after?, Option.bind_eq_some_iff, Option.map_eq_some_iff]
  constructor
  · rintro ⟨_, ⟨⟨before, inside⟩, hopening, rfl⟩, ⟨_, after⟩, hclosing, rfl⟩
    obtain ⟨rfl, hbefore⟩ := Text.splitAt?_singleton_eq_some_iff.1 hopening
    obtain ⟨hinside, hdigits⟩ := Text.splitAt?_singleton_eq_some_iff.1 hclosing
    dsimp only at hinside
    exact ⟨before, after, by rw [hinside], hbefore, hdigits⟩
  · rintro ⟨before, after, rfl, hbefore, hdigits⟩
    exact ⟨_, ⟨_, Text.splitAt?_singleton_eq_some_iff.2 ⟨rfl, hbefore⟩, rfl⟩, _,
      Text.splitAt?_singleton_eq_some_iff.2 ⟨rfl, hdigits⟩, rfl⟩

/-- The byte in brackets is the value of the numeral that stands there. -/
lemma byte?_eq_some_iff {value : UInt8} :
    byte? cs = some value ↔
      ∃ digits, Bracketed cs digits ∧
        Text.Denotes 16 (Text.trimBy Text.isBlank digits) value.toNat := by
  simp only [byte?, Option.bind_eq_some_iff, bracketed?_eq_some_iff, Option.map_eq_some_iff,
    Text.numeral?_eq_some_iff (Nat.le_refl 16) (Nat.succ_pos 15)]
  constructor
  · rintro ⟨digits, hdigits, n, ⟨hn, hle⟩, rfl⟩
    refine ⟨digits, hdigits, ?_⟩
    rwa [UInt8.toNat_ofNat_of_lt' (Nat.lt_succ_of_le hle)]
  · rintro ⟨digits, hdigits, hvalue⟩
    exact ⟨digits, hdigits, value.toNat, ⟨hvalue, Nat.le_of_lt_succ value.toNat_lt⟩,
      UInt8.ofNat_toNat⟩

/-- The byte is looked for behind the first occurrence of the key. -/
lemma bind_byte?_eq_some_iff {value : UInt8} :
    (Text.after? key message).bind byte? = some value ↔ ByteBehind key message value := by
  simp only [Option.bind_eq_some_iff, Text.after?_eq_some_iff, byte?_eq_some_iff]
  constructor
  · rintro ⟨after, ⟨before, hsplit⟩, digits, hdigits, hvalue⟩
    exact ⟨before, after, digits, hsplit, hdigits, hvalue⟩
  · rintro ⟨before, after, digits, hsplit, hdigits, hvalue⟩
    exact ⟨after, ⟨before, hsplit⟩, digits, hdigits, hvalue⟩

/-- A message describes a memory write when its values stand behind their keys. -/
lemma memoryWrite?_eq_some_iff {write : MemoryWrite} :
    memoryWrite? message = some write ↔
      WordBehind "dbAddr=".toList message write.memory.toList ∧
      ByteBehind "dbAddr=".toList message write.value ∧
      WordBehind "cmd1=".toList message write.cmd1.toList ∧
      WordBehind "cmd2=".toList message write.cmd2.toList := by
  rw [← wordAfter?_eq_some_iff, ← bind_byte?_eq_some_iff, ← wordAfter?_eq_some_iff,
    ← wordAfter?_eq_some_iff]
  constructor
  · intro h
    unfold memoryWrite? at h
    split at h
    · next memory value cmd1 cmd2 hmemory hvalue hcmd1 hcmd2 =>
      obtain rfl := Option.some.inj h
      simp only [String.toList_ofList]
      exact ⟨hmemory, hvalue, hcmd1, hcmd2⟩
    · exact absurd h (by simp)
  · rintro ⟨hmemory, hvalue, hcmd1, hcmd2⟩
    rw [memoryWrite?, hmemory, hvalue, hcmd1, hcmd2]
    simp only [String.ofList_toList]

end Progress

/-! ### Reports in writing -/

/-- Characters that are not blank, at least one of them. -/
structure Word where
  text : String
  ne_empty : text ≠ ""
  solid : text.toList.all fun c => !Text.isBlank c

/-- The report of a memory write before it is written. -/
structure MemoryReport where
  address : String
  memory : Word
  cmd1 : Word
  cmd2 : Word
  value : UInt8
  /-- The digits that the value is written with. -/
  high : Char
  low : Char
  closing_notMem_address : ']' ∉ address.toList
  address_head : address.toList.head? ≠ some '[' ∧ address.toList.head? ≠ some ' '
  address_last : address.toList.getLast? ≠ some '[' ∧ address.toList.getLast? ≠ some ' '
  address_ne_all : address ≠ "All"
  high_shows : Text.Shows high (value.toNat / 16)
  low_shows : Text.Shows low (value.toNat % 16)
  opening_notMem_memory : '[' ∉ memory.text.toList
  cmd1_not_infix_memory : ¬ "cmd1=".toList <:+: memory.text.toList
  cmd2_not_infix_memory : ¬ "cmd2=".toList <:+: memory.text.toList
  cmd2_not_infix_cmd1 : ¬ "cmd2=".toList <:+: cmd1.text.toList

namespace MemoryReport

variable (report : MemoryReport)

/-- The message of the report. -/
def message : String :=
  "Memory : Write dbAddr=" ++ report.memory.text ++ " [" ++ String.ofList [report.high, report.low]
    ++ "] cmd1=" ++ report.cmd1.text ++ " cmd2=" ++ report.cmd2.text

/-- The report as it is written. -/
def written : String :=
  "[" ++ report.address ++ "] " ++ report.message

/-- The memory write that the report is about. -/
def write : MemoryWrite where
  memory := report.memory.text
  cmd1 := report.cmd1.text
  cmd2 := report.cmd2.text
  value := report.value

/-! ### Reading reports -/

/-- What stands behind the memory address. -/
def behindMemory : List Char :=
  ' ' :: (['[', report.high, report.low, ']'] ++ ' ' :: ("cmd1=".toList ++
    (report.cmd1.text.toList ++ ' ' :: ("cmd2=".toList ++ report.cmd2.text.toList))))

lemma toList_message :
    report.message.toList =
      "Memory : Write ".toList ++ ("dbAddr=".toList ++
        (report.memory.text.toList ++ report.behindMemory)) := by
  have haddress : "Memory : Write dbAddr=".toList = "Memory : Write ".toList ++ "dbAddr=".toList := by
    simp
  have hopening : " [".toList = [' ', '['] := by simp
  have hcmd1 : "] cmd1=".toList = ']' :: ' ' :: "cmd1=".toList := by simp
  have hcmd2 : " cmd2=".toList = ' ' :: "cmd2=".toList := by simp
  unfold message behindMemory
  simp only [String.toList_append, String.toList_ofList, haddress, hopening, hcmd1, hcmd2,
    List.append_assoc, List.cons_append, List.nil_append]

/-- A hexadecimal digit is neither blank nor a bracket. -/
lemma plain_of_shows {c : Char} {d : Nat} (hd : d < 16) (h : Text.Shows c d) :
    Text.isBlank c = false ∧ c ≠ ']' := by
  have hc := (Text.shows_iff hd).1 h
  constructor
  · simp only [Text.isBlank, Bool.or_eq_false_iff, Bool.and_eq_false_iff, decide_eq_false_iff_not,
      beq_eq_false_iff_ne]
    omega
  · rintro rfl
    have hbracket : ']'.toNat = 93 := rfl
    omega

/-- The memory address is what the first key is followed by. -/
lemma after?_dbAddr :
    Text.after? "dbAddr=".toList report.message.toList =
      some (report.memory.text.toList ++ report.behindMemory) := by
  have hkey : "dbAddr=".toList.head? = some 'd' := by simp
  rw [toList_message, Text.after?_append hkey (by simp), Text.after?_self]

/-- A key that does not occur in the memory address is looked for behind the byte. -/
lemma after?_behindByte {key : List Char} (hkey : key.head? = some 'c') (hblank : ' ' ∉ key)
    (hlength : 4 < key.length) (hmemory : ¬ key <:+: report.memory.text.toList) :
    Text.after? key report.message.toList =
      Text.after? key ("cmd1=".toList ++
        (report.cmd1.text.toList ++ ' ' :: ("cmd2=".toList ++ report.cmd2.text.toList))) := by
  have hne : key ≠ [] := List.ne_nil_of_length_pos (Nat.zero_lt_of_lt hlength)
  have hbyte : ¬ key <:+: ['[', report.high, report.low, ']'] := fun h =>
    absurd h.length_le (Nat.not_le.2 hlength)
  rw [toList_message, Text.after?_append hkey (by simp), Text.after?_append hkey (by simp),
    behindMemory, Text.after?_append_cons hne hblank hmemory,
    Text.after?_append_cons hne hblank hbyte]

lemma after?_cmd1 :
    Text.after? "cmd1=".toList report.message.toList =
      some (report.cmd1.text.toList ++ ' ' :: ("cmd2=".toList ++ report.cmd2.text.toList)) := by
  rw [report.after?_behindByte (by simp) (by simp) (by simp) report.cmd1_not_infix_memory,
    Text.after?_self]

lemma after?_cmd2 :
    Text.after? "cmd2=".toList report.message.toList = some report.cmd2.text.toList := by
  have hcmd1 : ¬ "cmd2=".toList <:+: "cmd1=".toList ++ report.cmd1.text.toList := by
    have hvalue := report.cmd2_not_infix_cmd1
    simp_all [List.infix_cons_iff, List.cons_prefix_cons]
  rw [report.after?_behindByte (by simp) (by simp) (by simp) report.cmd2_not_infix_memory,
    ← List.append_assoc, Text.after?_append_cons (by simp) (by simp) hcmd1, Text.after?_self]

/-- The byte stands in the first brackets behind the memory address. -/
lemma byte?_behindMemory :
    Progress.byte? (report.memory.text.toList ++ report.behindMemory) = some report.value := by
  have hhigh : report.value.toNat / 16 < 16 := Nat.div_lt_of_lt_mul report.value.toNat_lt
  have hlow : report.value.toNat % 16 < 16 := Nat.mod_lt _ (Nat.succ_pos 15)
  have hplainHigh := plain_of_shows hhigh report.high_shows
  have hplainLow := plain_of_shows hlow report.low_shows
  refine Progress.byte?_eq_some_iff.2 ⟨[report.high, report.low], ?_, ?_⟩
  · refine ⟨report.memory.text.toList ++ [' '], ' ' :: ("cmd1=".toList ++ (report.cmd1.text.toList ++
      ' ' :: ("cmd2=".toList ++ report.cmd2.text.toList))), ?_, ?_, ?_⟩
    · simp only [behindMemory, List.append_assoc, List.cons_append, List.nil_append]
    · simpa using report.opening_notMem_memory
    · simp [hplainHigh.2.symm, hplainLow.2.symm]
  · rw [Text.trimBy_eq_self (by simp [hplainHigh.1]) (by simp [hplainLow.1])]
    refine ⟨_, [report.value.toNat / 16, report.value.toNat % 16], .inl rfl, by simp,
      .cons ⟨hhigh, report.high_shows⟩ (.cons ⟨hlow, report.low_shows⟩ .nil), ?_⟩
    simp only [List.reverse_cons, List.reverse_nil, List.nil_append, List.singleton_append,
      Nat.ofDigits_cons, Nat.ofDigits_nil]
    omega

/-- The message describes the memory write that the report is about. -/
lemma memoryWrite?_message :
    Progress.memoryWrite? report.message.toList = some report.write := by
  have hword {key after : List Char} {word : Word}
      (h : Text.after? key report.message.toList = some (word.text.toList ++ after))
      (hafter : ∀ c ∈ after.head?, Text.isBlank c) :
      Progress.WordBehind key report.message.toList word.text.toList := by
    refine Progress.wordAfter?_eq_some_iff.1 (Progress.wordAfter?_of_after? h ?_ ?_ hafter)
    · exact fun hnil => word.ne_empty (String.toList_eq_nil_iff.1 hnil)
    · exact fun c hc => by simpa using List.all_eq_true.1 word.solid c hc
  have hcmd2 : Text.after? "cmd2=".toList report.message.toList =
      some (report.cmd2.text.toList ++ []) := by
    rw [report.after?_cmd2, List.append_nil]
  refine Progress.memoryWrite?_eq_some_iff.2 ⟨hword report.after?_dbAddr ?_,
    Progress.bind_byte?_eq_some_iff.1 ?_, hword report.after?_cmd1 ?_, hword hcmd2 ?_⟩
  · rintro _ ⟨⟩
    decide
  · rw [report.after?_dbAddr, Option.bind_some, byte?_behindMemory]
    rfl
  · rintro _ ⟨⟩
    decide
  · simp

/-- The message neither begins nor ends with a blank. -/
lemma trimBy_message : Text.trimBy Text.isBlank report.message.toList = report.message.toList := by
  refine Text.trimBy_eq_self (fun c hc => ?_) fun c hc => ?_
  · have hhead : report.message.toList.head? = some 'M' := by
      rw [toList_message]
      simp
    obtain rfl := Option.some.inj (hhead.symm.trans hc)
    decide
  · obtain ⟨before, hsplit, -⟩ := Text.after?_eq_some_iff.1 report.after?_cmd2
    have hne : report.cmd2.text.toList ≠ [] := fun hnil =>
      report.cmd2.ne_empty (String.toList_eq_nil_iff.1 hnil)
    rw [hsplit, List.getLast?_append_of_ne_nil _ hne] at hc
    simpa using List.all_eq_true.1 report.cmd2.solid c (List.mem_of_getLast? hc)

/-- The address neither begins nor ends with what surrounds it. -/
lemma trimBy_address :
    Text.trimBy Progress.isAddressEdge ('[' :: report.address.toList) = report.address.toList := by
  have hedge {c : Char} {o : Option Char} (ho : o ≠ some '[' ∧ o ≠ some ' ') (hc : c ∈ o) :
      Progress.isAddressEdge c = false := by
    obtain rfl := Option.mem_def.1 hc
    simpa [Progress.isAddressEdge] using ho
  rw [Text.trimBy_cons rfl]
  exact Text.trimBy_eq_self (fun _ hc => hedge report.address_head hc)
    fun _ hc => hedge report.address_last hc

/-- The first closing bracket of a report is the one behind its address. -/
lemma splitAt?_written :
    Text.splitAt? [']'] report.written.toList =
      some ('[' :: report.address.toList, ' ' :: report.message.toList) := by
  refine Text.splitAt?_singleton_eq_some_iff.2 ⟨?_, ?_⟩
  · unfold written
    simp only [String.toList_append, List.append_assoc]
    simp
  · simpa using report.closing_notMem_address

end MemoryReport

namespace Progress

/-- For all addresses, values and words that a report can be written with, in either case of the
digits, reading the report gives them back, with the text behind the address as its message. -/
theorem ofText_written (report : MemoryReport) :
    ofText report.written =
      ⟨report.address, report.message, .deviceMemory, some report.write⟩ := by
  have hall : (report.address.toList != "All".toList) = true := by
    rw [bne_iff_ne, ne_eq, String.toList_inj]
    exact report.address_ne_all
  have hmemory : "Memory".toList.isPrefixOf report.message.toList = true := by
    rw [MemoryReport.toList_message]
    simp
  have hmessage : Text.trimBy Text.isBlank (' ' :: report.message.toList) =
      report.message.toList := by
    rw [Text.trimBy_cons rfl, report.trimBy_message]
  simp only [ofText, report.splitAt?_written, Option.getD_some, report.trimBy_address, hmessage,
    hall, hmemory, Bool.and_self, if_true, String.ofList_toList, report.memoryWrite?_message]

/-- Values may hold keys and brackets where these come too late to be found. -/
theorem ofText_written_instance :
    ofText "[1 [2] Memory : Write dbAddr=é]dbAddr= [fF] cmd1=[cmd1= cmd2=cmd1=]cmd2=" =
      ⟨"1 [2", "Memory : Write dbAddr=é]dbAddr= [fF] cmd1=[cmd1= cmd2=cmd1=]cmd2=", .deviceMemory,
        some ⟨"é]dbAddr=", "[cmd1=", "cmd1=]cmd2=", 255⟩⟩ := by
  let report : MemoryReport := {
    address := "1 [2"
    memory := ⟨"é]dbAddr=", by decide, by decide⟩
    cmd1 := ⟨"[cmd1=", by decide, by decide⟩
    cmd2 := ⟨"cmd1=]cmd2=", by decide, by decide⟩
    value := 255
    high := 'f'
    low := 'F'
    closing_notMem_address := by decide
    address_head := by decide
    address_last := by decide
    address_ne_all := by decide
    high_shows := by decide
    low_shows := by decide
    opening_notMem_memory := by decide
    cmd1_not_infix_memory := by decide
    cmd2_not_infix_memory := by decide
    cmd2_not_infix_cmd1 := by decide }
  have hwritten : report.written =
      "[1 [2] Memory : Write dbAddr=é]dbAddr= [fF] cmd1=[cmd1= cmd2=cmd1=]cmd2=" := by
    decide +kernel
  have hmessage : report.message =
      "Memory : Write dbAddr=é]dbAddr= [fF] cmd1=[cmd1= cmd2=cmd1=]cmd2=" := by
    decide +kernel
  rw [← hwritten, ofText_written report, hmessage]
  rfl

end Progress

end EventFeed
