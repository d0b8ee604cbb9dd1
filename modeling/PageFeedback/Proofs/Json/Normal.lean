import PageFeedback.Proofs.Json.Value

set_option autoImplicit false

namespace PageFeedback.Json

inductive Normal : Nat → Json → Prop
  | null (depth : Nat) : Normal depth .null
  | bool (depth : Nat) (value : Bool) : Normal depth (.bool value)
  | number (depth : Nat) (value : Number) : Normal depth (.number value)
  | string (depth : Nat) (text : String) : Normal depth (.string text)
  | array {depth : Nat} {items : List Json} (each : ∀ item ∈ items, Normal depth item) :
      Normal (depth + 1) (.array items)
  | object {depth : Nat} {members : List (String × Json)} (ascending : Ascending members)
      (each : ∀ member ∈ members, Normal depth member.2) : Normal (depth + 1) (.object members)

inductive OnlyWhole : Json → Prop
  | null : OnlyWhole .null
  | bool (value : Bool) : OnlyWhole (.bool value)
  | integer (n : Integer) : OnlyWhole (.number (.integer n))
  | string (text : String) : OnlyWhole (.string text)
  | array {items : List Json} (each : ∀ item ∈ items, OnlyWhole item) : OnlyWhole (.array items)
  | object {members : List (String × Json)} (each : ∀ member ∈ members, OnlyWhole member.2) :
      OnlyWhole (.object members)

section

variable {α : Type}

theorem insert_each_ascending (before members : List (String × α)) (ascending : Ascending before) :
    Ascending (members.foldl (fun sorted member => insertMember member.1 member.2 sorted) before) := by
  induction members generalizing before with
  | nil => exact ascending
  | cons member members ih => exact ih _ (insert_member_ascending member.1 member.2 before ascending)

theorem insert_each_subset (before members : List (String × α)) (member : String × α)
    (found : member ∈ members.foldl (fun sorted member => insertMember member.1 member.2 sorted) before) :
    member ∈ before ∨ member ∈ members := by
  induction members generalizing before with
  | nil => exact .inl found
  | cons first members ih =>
      cases ih _ found with
      | inl inserted =>
          exact (insert_member_subset first.1 first.2 before member inserted).elim
            (fun own => .inr (List.mem_cons.mpr (.inl own))) .inl
      | inr later => exact .inr (List.mem_cons_of_mem _ later)

theorem by_name_ascending (members : List (String × α)) : Ascending (byName members) :=
  insert_each_ascending [] members List.Pairwise.nil

theorem mem_of_by_name (members : List (String × α)) (member : String × α) (found : member ∈ byName members) :
    member ∈ members :=
  (insert_each_subset [] members member found).resolve_left List.not_mem_nil

theorem by_name_lookup (name : String) (members : List (String × α)) :
    (byName members).lookup name = members.reverse.lookup name := by
  rw [byName, lookup_insert_each, List.append_nil]

variable {property : α → Prop} {reader : Reader α}

theorem read_items_each (each : ∀ chars value rest, reader chars = .ok (value, rest) → property value) (bound : Nat)
    (first : Bool) (chars rest : List Char) (items : List α)
    (read : readItems reader bound first chars = .ok (items, rest)) : ∀ item ∈ items, property item := by
  induction bound generalizing first chars rest items with
  | zero => cases read
  | succ bound ih =>
      rw [readItems] at read
      split at read
      · cases read
      · cases read
        exact List.forall_mem_nil _
      · split at read
        · cases read
        next value afterItem itemRead =>
          split at read
          · cases read
          next values unread laterRead =>
            cases read
            exact List.forall_mem_cons.mpr ⟨each _ _ _ itemRead, ih false _ _ _ laterRead⟩

theorem read_members_each (each : ∀ chars value rest, reader chars = .ok (value, rest) → property value) (bound : Nat)
    (first : Bool) (chars rest : List Char) (members : List (String × α))
    (read : readMembers reader bound first chars = .ok (members, rest)) : ∀ member ∈ members, property member.2 := by
  induction bound generalizing first chars rest members with
  | zero => cases read
  | succ bound ih =>
      rw [readMembers] at read
      split at read
      · cases read
      · cases read
        exact List.forall_mem_nil _
      · split at read
        · cases read
        · split at read
          · cases read
          · split at read
            · cases read
            next value afterValue valueRead =>
              split at read
              · cases read
              next later unread laterRead =>
                cases read
                exact List.forall_mem_cons.mpr ⟨each _ _ _ valueRead, ih false _ _ _ laterRead⟩

end

inductive Comes : Nat → List Char → Json → List Char → Prop
  | null {depth : Nat} {chars rest : List Char} : Comes depth chars .null rest
  | bool {depth : Nat} {chars rest : List Char} (value : Bool) : Comes depth chars (.bool value) rest
  | number {depth : Nat} {chars rest : List Char} (value : Number) : Comes depth chars (.number value) rest
  | string {depth : Nat} {chars rest : List Char} (text : String) : Comes depth chars (.string text) rest
  | array {depth : Nat} {chars start rest : List Char} {items : List Json} (opened : skipSpace chars = '[' :: start)
      (read : readItems (readValue depth) (start.length + 1) true start = .ok (items, rest)) :
      Comes (depth + 1) chars (.array items) rest
  | object {depth : Nat} {chars start rest : List Char} {members : List (String × Json)}
      (opened : skipSpace chars = '{' :: start)
      (read : readMembers (readValue depth) (start.length + 1) true start = .ok (members, rest)) :
      Comes (depth + 1) chars (.object (byName members)) rest

theorem bind_ok {ε α β : Type} {first : Except ε α} {next : α → Except ε β} {result : β}
    (done : first >>= next = .ok result) : ∃ value, first = .ok value ∧ next value = .ok result := by
  cases first with
  | error error => cases done
  | ok value => exact ⟨value, rfl, done⟩

theorem read_value_comes {depth : Nat} {chars rest : List Char} {value : Json}
    (read : readValue depth chars = .ok (value, rest)) : Comes depth chars value rest := by
  rw [readValue.eq_def] at read
  dsimp only at read
  split at read
  · cases read
  next c start opened =>
    split_ifs at read with isNull isTrue isFalse isNumber isString isArray isObject
    · obtain ⟨unread, -, same⟩ := bind_ok read
      cases same
      exact .null
    · obtain ⟨unread, -, same⟩ := bind_ok read
      cases same
      exact .bool true
    · obtain ⟨unread, -, same⟩ := bind_ok read
      cases same
      exact .bool false
    · obtain ⟨⟨number, unread⟩, -, same⟩ := bind_ok read
      cases same
      exact .number number
    · obtain ⟨⟨text, unread⟩, -, same⟩ := bind_ok read
      cases same
      exact .string (String.ofList text)
    · subst isArray
      cases depth with
      | zero => cases read
      | succ inner =>
          obtain ⟨⟨items, unread⟩, itemsRead, same⟩ := bind_ok read
          cases same
          exact .array opened itemsRead
    · subst isObject
      cases depth with
      | zero => cases read
      | succ inner =>
          obtain ⟨⟨members, unread⟩, membersRead, same⟩ := bind_ok read
          cases same
          exact .object opened membersRead

theorem read_value_normal {depth : Nat} {chars rest : List Char} {value : Json}
    (read : readValue depth chars = .ok (value, rest)) : Normal depth value := by
  induction depth generalizing chars rest value with
  | zero =>
      cases read_value_comes read with
      | null => exact .null 0
      | bool value => exact .bool 0 value
      | number value => exact .number 0 value
      | string text => exact .string 0 text
  | succ depth ih =>
      cases read_value_comes read with
      | null => exact .null _
      | bool value => exact .bool _ value
      | number value => exact .number _ value
      | string text => exact .string _ text
      | array opened read => exact .array (read_items_each (fun _ _ _ => ih) _ _ _ _ _ read)
      | object opened read =>
          have each := read_members_each (fun _ _ _ => ih) _ _ _ _ _ read
          exact .object (by_name_ascending _) fun member found => each member (mem_of_by_name _ member found)

namespace Normal

variable {depth : Nat} {value : Json}

theorem deeper (normal : Normal depth value) : Normal (depth + 1) value := by
  induction normal with
  | null depth => exact .null _
  | bool depth value => exact .bool _ value
  | number depth value => exact .number _ value
  | string depth text => exact .string _ text
  | array each ih => exact .array ih
  | object ascending each ih => exact .object ascending ih

theorem ordered_same (normal : Normal depth value) : value.ordered = value := by
  induction normal with
  | null depth => rfl
  | bool depth value => rfl
  | number depth value => rfl
  | string depth text => rfl
  | @array depth items each ih =>
      rw [ordered, ordered_items]
      exact congrArg Json.array ((List.map_congr_left ih).trans (List.map_id' items))
  | @object depth members ascending each ih =>
      have same : members.map (fun member => (member.1, member.2.ordered)) = members := by
        refine (List.map_congr_left fun member found => ?_).trans (List.map_id members)
        exact Prod.ext rfl (ih member found)
      rw [ordered, ordered_members, same, by_name_of_ascending members ascending]

theorem fits (normal : Normal depth value) (whole : OnlyWhole value) : Fits depth value := by
  induction normal with
  | null depth => exact .null depth
  | bool depth value => exact .bool depth value
  | number depth value =>
      cases whole with
      | integer n => exact .integer depth n
  | string depth text => exact .string depth text
  | array each ih =>
      cases whole with
      | array wholeEach => exact .array fun item found => ih item found (wholeEach item found)
  | object ascending each ih =>
      cases whole with
      | object wholeEach => exact .object fun member found => ih member found (wholeEach member found)

theorem parse_compact (normal : Normal depthLimit value) (whole : OnlyWhole value) :
    parse value.compactText = .ok value := by
  rw [(normal.fits whole).parse_compact, normal.ordered_same]

end Normal

theorem parse_normal {text : String} {value : Json} (read : parse text = .ok value) : Normal depthLimit value := by
  rw [parse, readAll] at read
  split at read
  · cases read
  next found unread valueRead =>
    split at read
    · cases read
    · cases read
      exact read_value_normal valueRead

end PageFeedback.Json
