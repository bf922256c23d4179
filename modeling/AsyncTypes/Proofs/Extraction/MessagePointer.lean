import AsyncTypes.Proofs.Extraction.MessageChain
import AsyncTypes.Proofs.Pointer.RoundTrip

/-!
# Pointers to the messages of a channel

The keys of a channel and of a message are written as steps and read back, whatever characters
they have.  So the pointer to a message of a channel leads to what stands there, and a message
that is reached by it has the name that it has in its channel.
-/

namespace AsyncTypes

/-! ## The text of a pointer -/

namespace Text

theorem occursIn_append_left {part text : List Char} (occurs : occursIn part text = true)
    (before : List Char) : occursIn part (before ++ text) = true := by
  induction before with
  | nil => exact occurs
  | cons c before ih => rw [List.cons_append, occursIn, ih, Bool.or_true]

theorem occursIn_of_prefix (part rest : List Char) : occursIn part (part ++ rest) = true := by
  cases part with
  | nil => cases rest <;> rfl
  | cons c part =>
      rw [List.cons_append, occursIn, Bool.or_eq_true]
      exact Or.inl (List.isPrefixOf_iff_prefix.mpr ⟨rest, rfl⟩)

end Text

namespace Pointer

/-- A key as a step of a pointer: every tilde is replaced by `~0`, and after that every slash
by `~1`. -/
def written (key : String) : String :=
  String.ofList (Text.replaceChar '/' ['~', '1'] (Text.replaceChar '~' ['~', '0'] key.toList))

/-- The pointer to the message of a channel. -/
def toMessage (channel message : String) : String :=
  channelRoot ++ written channel ++ "/messages/" ++ written message

variable (channel message : String)

theorem toList_written (key : String) : (written key).toList = escape key.toList := by
  rw [written, String.toList_ofList, escape_eq_replaceChar]

theorem toList_toMessage : (toMessage channel message).toList =
    channelRoot.toList ++ (escape channel.toList ++ ("/messages/".toList ++
      escape message.toList)) := by
  simp only [toMessage, String.toList_append, toList_written, List.append_assoc]

theorem keys?_toMessage :
    keys? (toMessage channel message) = some ["channels", channel, "messages", message] := by
  have after : Text.after? "#/".toList (toMessage channel message).toList =
      some ("channels".toList ++ '/' :: (escape channel.toList ++
        '/' :: ("messages".toList ++ '/' :: escape message.toList))) :=
    Text.after?_eq_some_iff.mpr (toList_toMessage channel message)
  rw [keys?, after, Option.map_some, Text.split_append_cons (by decide),
    Text.split_append_cons (slash_notMem_escape _), Text.split_append_cons (by decide),
    Text.split_of_notMem (slash_notMem_escape _)]
  simp only [List.map_cons, List.map_nil, stepKey_escape]
  rfl

theorem lastKey_toMessage : lastKey (toMessage channel message) = message := by
  have whole : '/' ∉ (escape message.toList).reverse := by
    rw [List.mem_reverse]
    exact slash_notMem_escape _
  have turned : (toMessage channel message).toList.reverse =
      (escape message.toList).reverse ++
        '/' :: (channelRoot.toList ++ (escape channel.toList ++ "/messages".toList)).reverse := by
    have cut : (toMessage channel message).toList =
        channelRoot.toList ++ (escape channel.toList ++ "/messages".toList) ++
          '/' :: escape message.toList := by
      rw [toList_toMessage, List.append_assoc, List.append_assoc]
      rfl
    rw [cut, List.reverse_append, List.reverse_cons, List.append_assoc, List.singleton_append]
  rw [lastKey, turned, takeWhile_of_notMem whole (Or.inr ⟨_, rfl⟩), List.reverse_reverse,
    stepKey_escape]

/-- The pointer to a message of a channel is none to a component message. -/
theorem keyBelow?_messageRoot_toMessage :
    keyBelow? messageRoot (toMessage channel message) = none := by
  rw [keyBelow?, Text.after?, toList_toMessage]
  rfl

theorem startsWith_toMessage : Text.startsWith channelRoot (toMessage channel message) = true := by
  rw [Text.startsWith, toList_toMessage]
  exact List.isPrefixOf_iff_prefix.mpr (List.prefix_append _ _)

theorem occursIn_toMessage :
    Text.occursIn "/messages/".toList (toMessage channel message).toList = true := by
  rw [toList_toMessage]
  exact Text.occursIn_append_left (Text.occursIn_append_left (Text.occursIn_of_prefix _ _) _) _

end Pointer

namespace Extraction

/-- A message that is reached by its pointer has its key for a name. -/
theorem nameAfter_toMessage (name channel message : String) :
    nameAfter name (Pointer.toMessage channel message) = message := by
  rw [nameAfter, Pointer.keyBelow?_messageRoot_toMessage, Pointer.startsWith_toMessage,
    Pointer.occursIn_toMessage, Pointer.lastKey_toMessage]
  rfl

variable {document object value : Value} {channel message : String}

/-- The pointer to a message leads to what stands there. -/
theorem walk?_toMessage (held : (document.field "channels").get? channel = some object)
    (inside : (object.field "messages").get? message = some value)
    (present : value.isNull = false) :
    Pointer.walk? document (Pointer.toMessage channel message) = some value := by
  obtain ⟨channels, presentChannels⟩ := Pointer.get?_of_get?_field held
  obtain ⟨messages, presentMessages⟩ := Pointer.get?_of_get?_field inside
  obtain ⟨entries, rfl⟩ := Pointer.exists_entries_of_get? messages
  rw [Pointer.walk?, Pointer.keys?_toMessage, Option.bind_some,
    Pointer.follow?_cons_of_get? channels presentChannels,
    Pointer.follow?_cons_of_get? held rfl,
    Pointer.follow?_cons_of_get? messages presentMessages,
    Pointer.follow?_cons_of_get? inside present]
  rfl

end Extraction

end AsyncTypes
