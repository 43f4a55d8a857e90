import EventFeed.Proofs.Report.Memory
import EventFeed.Report.Offsets

/-!
# Reading by offsets does not fail

The offsets at which a report is cut come from searches in different parts of it and are added up
before they are used. Every one of them is the end of a part that a search has found, counted from
the beginning of the text that is cut, and so the slices between them exist: reading by offsets
gives what reading by characters does (`ofSlices_eq`).

What the report says is then read off the definition by characters (`ofText_readOff`).
-/

namespace EventFeed

/-! ### Offsets -/

namespace Text

variable {key s : String}

/-- An offset is where a part ends that a search has found. -/
lemma offset?_cases (key s : String) :
    (splitAt? key.toList s.toList = none ∧ offset? key s = none) ∨
      ∃ before after : String, s = before ++ key ++ after ∧
        splitAt? key.toList s.toList = some (before.toList, after.toList) ∧
        offset? key s = some before.utf8ByteSize := by
  cases h : splitAt? key.toList s.toList with
  | none => exact .inl ⟨rfl, by rw [offset?, h, Option.map_none]⟩
  | some parts =>
    refine .inr ⟨String.ofList parts.1, String.ofList parts.2, ?_, ?_, ?_⟩
    · rw [← String.toList_inj]
      simpa using eq_of_splitAt? h
    · simp only [String.toList_ofList]
    · rw [offset?, h, Option.map_some]

/-- A search passes over a part that does not hold the first character of the key. -/
lemma offset?_append {k : Char} {before : String} (hkey : key.toList.head? = some k)
    (hk : k ∉ before.toList) (rest : String) :
    offset? key (before ++ rest) = (offset? key rest).map (before.utf8ByteSize + ·) := by
  rw [offset?, String.toList_append, splitAt?_append hkey hk, offset?, Option.map_map,
    Option.map_map]
  congr 1
  funext parts
  simp [String.utf8ByteSize_append]

/-- The slice from the end of a part on. -/
lemma slice_behind (before rest : String) :
    slice (before ++ rest) before.utf8ByteSize (before ++ rest).utf8ByteSize = .ok rest := by
  simpa using slice_append before rest ""

/-- The slice from a key on. -/
lemma slice_from (before key after : String) :
    slice (before ++ key ++ after) before.utf8ByteSize (before ++ key ++ after).utf8ByteSize =
      .ok (key ++ after) := by
  rw [String.append_assoc]
  exact slice_behind before (key ++ after)

/-- The slice from behind a key on. -/
lemma slice_past (before key after : String) :
    slice (before ++ key ++ after) (before.utf8ByteSize + key.utf8ByteSize)
      (before ++ key ++ after).utf8ByteSize = .ok after := by
  rw [← String.utf8ByteSize_append]
  exact slice_behind (before ++ key) after

/-- The slice up to the end of a part. -/
lemma slice_front (part after : String) : slice (part ++ after) 0 part.utf8ByteSize = .ok part := by
  simpa using slice_append "" part after

/-- Up to the first blank, or to the end, there is the longest part without a blank. -/
lemma getD_blankOffset? (s : String) :
    (blankOffset? s).getD s.utf8ByteSize =
      (String.ofList (s.toList.takeWhile fun c => !isBlank c)).utf8ByteSize := by
  unfold blankOffset?
  split
  · rfl
  · next h =>
    have hall : s.toList.takeWhile (fun c => !isBlank c) = s.toList := by
      rw [List.takeWhile_eq_self_iff]
      intro c hc
      simpa using fun hblank => h (List.any_eq_true.2 ⟨c, hc, hblank⟩)
    rw [hall, String.ofList_toList, Option.getD_none]

end Text

namespace Progress

open Text

/-! ### Reading by offsets -/

/-- A word is cut out of its message. -/
lemma wordSlice_eq (key message : String) :
    wordSlice key message =
      .ok ((wordAfter? key.toList message.toList).map String.ofList) := by
  rcases offset?_cases key message with ⟨hnone, hoffset⟩ | ⟨before, after, rfl, hsplit, hoffset⟩
  · rw [wordSlice, hoffset, wordAfter?, after?, hnone]
    rfl
  · let word := after.toList.takeWhile fun c => !isBlank c
    have hword : slice after 0 ((blankOffset? after).getD after.utf8ByteSize) =
        .ok (String.ofList word) := by
      have hafter : String.ofList word ++
          String.ofList (after.toList.dropWhile fun c => !isBlank c) = after := by
        rw [← String.ofList_append, List.takeWhile_append_dropWhile, String.ofList_toList]
      have hslice := slice_front (String.ofList word)
        (String.ofList (after.toList.dropWhile fun c => !isBlank c))
      rwa [hafter, ← getD_blankOffset?] at hslice
    simp only [wordSlice, hoffset, slice_past, hword, wordAfter?, after?, hsplit, Option.map_some,
      Option.filter_some, bind, Except.bind, pure, Except.pure]
    cases h : after.toList.takeWhile fun c => !isBlank c <;> simp [word, h]

/-- What stands in brackets is cut out from behind the opening bracket on. The width is counted from
the opening bracket itself, so that it is at least one. -/
lemma bracketSlice_eq (s : String) :
    bracketSlice s = .ok ((bracketed? s.toList).map String.ofList) := by
  have hopening : "[".toList = ['['] := by simp
  have hclosing : "]".toList = [']'] := by simp
  rcases offset?_cases "[" s with ⟨hnone, hoffset⟩ | ⟨before, inside, rfl, hsplit, hoffset⟩
  · rw [hopening] at hnone
    rw [bracketSlice, hoffset, bracketed?, after?, hnone]
    rfl
  rw [hopening] at hsplit
  have hwidth : offset? "]" ("[" ++ inside) = (offset? "]" inside).map (1 + ·) :=
    offset?_append (k := ']') rfl (by simp) inside
  rcases offset?_cases "]" inside with ⟨hnone, hclose⟩ | ⟨digits, after, rfl, hdigits, hclose⟩
  · rw [hclosing] at hnone
    simp only [bracketSlice, hoffset, slice_from, hwidth, hclose, Option.map_none, bracketed?, after?,
      hsplit, Option.map_some, Option.bind_some, hnone, bind, Except.bind, pure, Except.pure]
  rw [hclosing] at hdigits
  have hslice : slice (before ++ "[" ++ (digits ++ "]" ++ after)) (before.utf8ByteSize + 1)
      (before.utf8ByteSize + (1 + digits.utf8ByteSize)) = .ok digits := by
    have h := slice_append (before ++ "[") digits ("]" ++ after)
    have hone : "[".utf8ByteSize = 1 := rfl
    simpa only [String.append_assoc, String.utf8ByteSize_append, hone, Nat.add_assoc] using h
  simp only [bracketSlice, hoffset, slice_from, hwidth, hclose, hslice, bracketed?, after?, hsplit,
    Option.map_some, Option.bind_some, hdigits, String.ofList_toList, bind, Except.bind, pure,
    Except.pure]

/-- The byte is looked for from the key on and not from behind it: the key holds no bracket. -/
lemma byteSlice_eq (message : String) :
    byteSlice message = .ok ((after? "dbAddr=".toList message.toList).bind byte?) := by
  rcases offset?_cases "dbAddr=" message with
    ⟨hnone, hoffset⟩ | ⟨before, after, rfl, hsplit, hoffset⟩
  · rw [byteSlice, hoffset, after?, hnone]
    rfl
  have hbracketed : bracketed? ("dbAddr=" ++ after).toList = bracketed? after.toList := by
    rw [bracketed?, String.toList_append, after?_append rfl (by simp), bracketed?]
  simp only [byteSlice, hoffset, slice_from, bracketSlice_eq, hbracketed, after?, hsplit,
    Option.map_some, Option.bind_some, byte?, Option.bind_map, Function.comp_def, toList_trim,
    String.toList_ofList, bind, Except.bind, pure, Except.pure]

/-- A memory write is read by offsets as it is by characters. -/
lemma memorySlices_eq (message : String) :
    memorySlices message = .ok (memoryWrite? message.toList) := by
  simp only [memorySlices, wordSlice_eq, byteSlice_eq, memoryWrite?, bind, Except.bind, pure,
    Except.pure]
  cases wordAfter? "dbAddr=".toList message.toList with
  | none => rfl
  | some memory =>
    cases (after? "dbAddr=".toList message.toList).bind byte? with
    | none => rfl
    | some value =>
      cases wordAfter? "cmd1=".toList message.toList with
      | none => rfl
      | some cmd1 =>
        cases wordAfter? "cmd2=".toList message.toList with
        | none => rfl
        | some cmd2 => rfl

/-- A report is divided by offsets as it is by characters. -/
lemma halves_eq (text : String) :
    halves text =
      let parts := (splitAt? [']'] text.toList).getD (text.toList, [])
      .ok (String.ofList parts.1, String.ofList parts.2) := by
  rcases offset?_cases "]" text with ⟨hnone, hoffset⟩ | ⟨before, after, rfl, hsplit, hoffset⟩
  · rw [show "]".toList = [']'] by simp] at hnone
    simp only [halves, hoffset, hnone, Option.getD_none, String.ofList_toList, String.ofList_nil]
  · rw [show "]".toList = [']'] by simp] at hsplit
    have hbefore : slice (before ++ "]" ++ after) 0 before.utf8ByteSize = .ok before := by
      rw [String.append_assoc]
      exact slice_front before ("]" ++ after)
    have hafter : slice (before ++ "]" ++ after) (before.utf8ByteSize + 1)
        (before ++ "]" ++ after).utf8ByteSize = .ok after := slice_past before "]" after
    simp only [halves, hoffset, hbefore, hafter, hsplit, Option.getD_some, String.ofList_toList,
      bind, Except.bind, pure, Except.pure]

lemma ofList_eq_all_iff (cs : List Char) : String.ofList cs = "All" ↔ cs = "All".toList := by
  rw [← String.toList_inj, String.toList_ofList]

/-- A report is read by offsets as it is by characters. -/
lemma ofSlices_eq (text : String) : ofSlices text = .ok (ofText text) := by
  simp only [ofSlices, halves_eq, ofText, memorySlices_eq, trim, String.toList_ofList, bind,
    Except.bind, pure, Except.pure, Bool.and_eq_true, bne_iff_ne, ne_eq, ofList_eq_all_iff]
  split <;> rfl

/-! ### What a report says -/

/-- What a report may say about a text. The address stands before the first closing bracket, the
message behind it, and a memory write is one that the message describes. -/
structure ReadOff (text : String) (report : Progress) : Prop where
  address_eq :
    report.address.toList = trimBy isAddressEdge (text.toList.takeWhile (· != ']'))
  message_eq : report.message.toList = trimBy isBlank (text.toList.dropWhile (· != ']')).tail
  closing_notMem_address : ']' ∉ report.address.toList
  address_head : ∀ c ∈ report.address.toList.head?, c ≠ '[' ∧ c ≠ ' '
  address_last : ∀ c ∈ report.address.toList.getLast?, c ≠ '[' ∧ c ≠ ' '
  action_cases : report.action = .deviceMemory ∨ report.action = .deviceWriting
  action_eq_iff :
    report.action = .deviceMemory ↔
      report.address ≠ "All" ∧ "Memory".toList <+: report.message.toList
  memory_eq_some_iff (write : MemoryWrite) :
    report.memory = some write ↔
      report.action = .deviceMemory ∧
      WordBehind "dbAddr=".toList report.message.toList write.memory.toList ∧
      ByteBehind "dbAddr=".toList report.message.toList write.value ∧
      WordBehind "cmd1=".toList report.message.toList write.cmd1.toList ∧
      WordBehind "cmd2=".toList report.message.toList write.cmd2.toList

/-- A report about the memory of one device is the only one that a memory write is read from. -/
lemma ofText_cases (text : String) :
    ((ofText text).action = .deviceMemory ∧
        ((ofText text).address ≠ "All" ∧ "Memory".toList <+: (ofText text).message.toList) ∧
        (ofText text).memory = memoryWrite? (ofText text).message.toList) ∨
      ((ofText text).action = .deviceWriting ∧
        ¬ ((ofText text).address ≠ "All" ∧ "Memory".toList <+: (ofText text).message.toList) ∧
        (ofText text).memory = none) := by
  simp only [ofText, String.toList_ofList, ne_eq, ofList_eq_all_iff, ← List.isPrefixOf_iff_prefix,
    Bool.and_eq_true, bne_iff_ne]
  split
  · next h => exact .inl ⟨rfl, h, rfl⟩
  · next h => exact .inr ⟨rfl, h, rfl⟩

/-- For every text the slices that reading it takes exist, and the report holds what stands in the
text and nothing else. -/
theorem ofText_readOff (text : String) :
    ofSlices text = .ok (ofText text) ∧ ReadOff text (ofText text) := by
  refine ⟨ofSlices_eq text, ?_⟩
  have haddress : (ofText text).address.toList =
      trimBy isAddressEdge (text.toList.takeWhile (· != ']')) := by
    simp only [ofText, splitAt?_singleton_getD, String.toList_ofList]
  have hmessage : (ofText text).message.toList =
      trimBy isBlank (text.toList.dropWhile (· != ']')).tail := by
    simp only [ofText, splitAt?_singleton_getD, String.toList_ofList]
  have hedge {c : Char} (hc : isAddressEdge c = false) : c ≠ '[' ∧ c ≠ ' ' := by
    simpa [isAddressEdge] using hc
  exact {
    address_eq := haddress
    message_eq := hmessage
    closing_notMem_address := by
      rw [haddress]
      intro hmem
      have htrim := trimBy_infix isAddressEdge (text.toList.takeWhile (· != ']'))
      simpa using List.mem_takeWhile_imp (htrim.subset hmem)
    address_head := fun c hc => hedge (head?_trimBy (haddress ▸ hc))
    address_last := fun c hc => hedge (getLast?_trimBy (haddress ▸ hc))
    action_cases := (ofText_cases text).imp And.left And.left
    action_eq_iff := by
      rcases ofText_cases text with ⟨haction, hmemory, -⟩ | ⟨haction, hmemory, -⟩
      · exact iff_of_true haction hmemory
      · exact iff_of_false (by simp [haction]) hmemory
    memory_eq_some_iff := fun write => by
      rw [← memoryWrite?_eq_some_iff]
      rcases ofText_cases text with ⟨haction, -, hwrite⟩ | ⟨haction, -, hwrite⟩ <;>
        simp [haction, hwrite] }

end Progress

end EventFeed
