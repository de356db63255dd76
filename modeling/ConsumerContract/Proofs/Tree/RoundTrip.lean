import ConsumerContract.Proofs.Tree.Members

namespace ConsumerContract

namespace Json

def matcherKeys : List String := ["max", "min", matcherKey, "regex", "value"]

mutual

def trimmed : Json → Json
  | .array items => .array (trimmedItems items)
  | .object entries =>
      match Entries.get? matcherKey entries with
      | none => .object (trimmedEntries (fun _ => true) entries)
      | some _ => .object (trimmedEntries (fun k => k ∈ matcherKeys) entries)
  | v => v

def trimmedItems : List Json → List Json
  | [] => []
  | v :: rest => trimmed v :: trimmedItems rest

def trimmedEntries (keep : String → Bool) : List (String × Json) → List (String × Json)
  | [] => []
  | (k, v) :: rest =>
      if keep k then (k, trimmed v) :: trimmedEntries keep rest else trimmedEntries keep rest

end

mutual

def Lacks (k : String) : Json → Prop
  | .array items => LacksItems k items
  | .object entries => Entries.get? k entries = none ∧ LacksEntries k entries
  | _ => True

def LacksItems (k : String) : List Json → Prop
  | [] => True
  | v :: rest => Lacks k v ∧ LacksItems k rest

def LacksEntries (k : String) : List (String × Json) → Prop
  | [] => True
  | (_, v) :: rest => Lacks k v ∧ LacksEntries k rest

end

theorem trimmedEntries_eq_map (keep : String → Bool) (entries : List (String × Json)) :
    trimmedEntries keep entries =
      (entries.filter fun e => keep e.1).map fun e => (e.1, e.2.trimmed) := by
  induction entries with
  | nil => rfl
  | cons e rest ih =>
      rw [trimmedEntries, ih, List.filter_cons]
      split <;> rfl

theorem trimmed_unmarked {entries : List (String × Json)}
    (h : Entries.get? matcherKey entries = none) :
    (object entries).trimmed = .object (entries.map fun e => (e.1, e.2.trimmed)) := by
  rw [trimmed, h]
  simp [trimmedEntries_eq_map]

theorem trimmed_marked {entries : List (String × Json)} (hascending : Entries.Ascending entries)
    {marked : Json} (h : Entries.get? matcherKey entries = some marked) :
    (object entries).trimmed =
      .ofMembers (matcherKeys.map fun k => (k, (Entries.get? k entries).map trimmed)) := by
  have hkeys : matcherKeys.Pairwise (· < ·) := by decide
  rw [trimmed, h]
  simp only [trimmedEntries_eq_map, Entries.filter_eq_filterMap hkeys hascending, ofMembers,
    List.map_filterMap, List.filterMap_map, Option.map_map, Function.comp_def]

theorem canonical_ofMembers {members : List (String × Option Json)}
    (hkeys : (members.map Prod.fst).Pairwise (· < ·))
    (h : ∀ m ∈ members, ∀ v, m.2 = some v → v.Canonical) : (ofMembers members).Canonical := by
  constructor
  · refine List.pairwise_filterMap.mpr ((List.pairwise_map.mp hkeys).imp ?_)
    intro a b hab x hx y hy
    obtain ⟨_, -, rfl⟩ := Option.map_eq_some_iff.mp hx
    obtain ⟨_, -, rfl⟩ := Option.map_eq_some_iff.mp hy
    exact hab
  · rw [canonicalEntries_iff]
    intro e he
    obtain ⟨m, hm, he⟩ := List.mem_filterMap.mp he
    obtain ⟨v, hv, rfl⟩ := Option.map_eq_some_iff.mp he
    exact h m hm v hv

end Json

namespace Tree

theorem encodeItems_eq_map (items : List Tree) : encodeItems items = items.map encode := by
  induction items with
  | nil => rfl
  | cons t rest ih => simp [encodeItems, ih]

theorem encodeEntries_eq_map (entries : List (String × Tree)) :
    encodeEntries entries = entries.map fun e => (e.1, e.2.encode) := by
  induction entries with
  | nil => rfl
  | cons e rest ih => simp [encodeEntries, ih]

theorem canonical_encode {t : Tree} (ht : t.Canonical) : t.encode.Canonical := by
  induction t with
  | array items ih =>
      rw [encode, encodeItems_eq_map]
      refine (Json.canonicalItems_iff _).mpr (List.forall_mem_map.mpr ?_)
      intro t hmem
      exact ih t hmem ((everyObject_array items).mp ht t hmem)
  | object entries ih =>
      obtain ⟨hascending, hentries⟩ := (everyObject_object entries).mp ht
      rw [encode, encodeEntries_eq_map]
      refine ⟨List.pairwise_map.mpr hascending, ?_⟩
      refine (Json.canonicalEntries_iff _).mpr (List.forall_mem_map.mpr ?_)
      intro e hmem
      exact ih e hmem (hentries e hmem)
  | matcher c payload ih =>
      have hpayload := ih ((everyObject_matcher c payload).mp ht)
      rw [encode]
      refine Json.canonical_ofMembers (by simp only [List.map_cons, List.map_nil]; decide) ?_
      simp [RuleKind.json, Json.ofNat64, Json.Canonical, hpayload]
  | _ => trivial

mutual

theorem encode_ofJson : ∀ v : Json, (ofJson v).encode = v
  | .null => rfl
  | .bool _ => rfl
  | .number _ => rfl
  | .string _ => rfl
  | .array items => by rw [ofJson, encode, encodeItems_ofJsonItems items]
  | .object entries => by rw [ofJson, encode, encodeEntries_ofJsonEntries entries]

theorem encodeItems_ofJsonItems : ∀ items : List Json, encodeItems (ofJsonItems items) = items
  | [] => rfl
  | v :: rest => by
      rw [ofJsonItems, encodeItems, encode_ofJson v, encodeItems_ofJsonItems rest]

theorem encodeEntries_ofJsonEntries :
    ∀ entries : List (String × Json), encodeEntries (ofJsonEntries entries) = entries
  | [] => rfl
  | (k, v) :: rest => by
      rw [ofJsonEntries, encodeEntries, encode_ofJson v, encodeEntries_ofJsonEntries rest]

end

mutual

theorem encodable_ofJson : ∀ v : Json, v.Lacks matcherKey → (ofJson v).Encodable
  | .null, _ => trivial
  | .bool _, _ => trivial
  | .number _, _ => trivial
  | .string _, _ => trivial
  | .array items, h => encodableItems_ofJsonItems items h
  | .object entries, h => by
      refine ⟨?_, encodableEntries_ofJsonEntries entries h.2⟩
      have hget := get?_encodeEntries matcherKey (ofJsonEntries entries)
      rw [encodeEntries_ofJsonEntries, h.1] at hget
      exact Option.map_eq_none_iff.mp hget.symm

theorem encodableItems_ofJsonItems :
    ∀ items : List Json, Json.LacksItems matcherKey items → EncodableItems (ofJsonItems items)
  | [], _ => trivial
  | v :: rest, h => ⟨encodable_ofJson v h.1, encodableItems_ofJsonItems rest h.2⟩

theorem encodableEntries_ofJsonEntries :
    ∀ entries : List (String × Json), Json.LacksEntries matcherKey entries →
      EncodableEntries (ofJsonEntries entries)
  | [], _ => trivial
  | (_, v) :: rest, h => ⟨encodable_ofJson v h.1, encodableEntries_ofJsonEntries rest h.2⟩

end

def Restores (t : Tree) (v : Json) : Prop := t.Encodable ∧ t.encode = v.trimmed

theorem restores_matcher {entries : Members} (hascending : Entries.Ascending entries)
    {c : Criterion} {payload : Tree} {v : Json} (hholds : Holds entries c.rule)
    (hv : Entries.get? "value" entries = some v) (h : payload.Restores v) :
    (matcher c payload).Restores (.object entries) := by
  refine ⟨h.1, ?_⟩
  have htext : ∀ k : RuleKind, k.json.trimmed = k.json := fun _ => rfl
  have hcount : Json.trimmed ∘ Json.ofNat64 = Json.ofNat64 := rfl
  have hstring : Json.trimmed ∘ Json.string = Json.string := rfl
  rw [Json.trimmed_marked hascending hholds.kind, encode]
  simp only [Json.matcherKeys, List.map_cons, List.map_nil, hholds.kind, hholds.regex, hholds.min,
    hholds.max, hv, Option.map_map, Option.map_some, hcount, hstring, htext, h.2]

theorem restores_of_decodeItems {items : List Json}
    (ih : ∀ v ∈ items, ∀ place t, v.Canonical → decodeAt place v = .ok t → t.Restores v)
    (hitems : Json.CanonicalItems items) {place : Selector} {i : Nat} {ts : List Tree}
    (h : decodeItems place i items = .ok ts) :
    EncodableItems ts ∧ encodeItems ts = Json.trimmedItems items := by
  induction items generalizing i ts with
  | nil => cases h; exact ⟨trivial, rfl⟩
  | cons v rest ihrest =>
      obtain ⟨hv, hrest⟩ := List.forall_mem_cons.mp ih
      obtain ⟨t, ts, ht, hts, rfl⟩ := decodeItems_cons_eq_ok_iff.mp h
      obtain ⟨hencodable, hencode⟩ := hv _ t hitems.1 ht
      obtain ⟨hencodables, hencodes⟩ := ihrest hrest hitems.2 hts
      refine ⟨⟨hencodable, hencodables⟩, ?_⟩
      rw [encodeItems, Json.trimmedItems, hencode, hencodes]

theorem restores_of_decodeEntries {entries : List (String × Json)}
    (ih : ∀ e ∈ entries, ∀ place t, e.2.Canonical → decodeAt place e.2 = .ok t → t.Restores e.2)
    (hentries : Json.CanonicalEntries entries) {place : Selector} {ts : List (String × Tree)}
    (h : decodeEntries place entries = .ok ts) :
    EncodableEntries ts ∧ encodeEntries ts = entries.map fun e => (e.1, e.2.trimmed) := by
  induction entries generalizing ts with
  | nil => cases h; exact ⟨trivial, rfl⟩
  | cons e rest ihrest =>
      obtain ⟨hv, hrest⟩ := List.forall_mem_cons.mp ih
      obtain ⟨t, ts, ht, hts, rfl⟩ := decodeEntries_cons_eq_ok_iff.mp h
      obtain ⟨hencodable, hencode⟩ := hv _ t hentries.1 ht
      obtain ⟨hencodables, hencodes⟩ := ihrest hrest hentries.2 hts
      refine ⟨⟨hencodable, hencodables⟩, ?_⟩
      rw [encodeEntries, List.map_cons, hencode, hencodes]

theorem get?_map_trimmed (k : String) (entries : List (String × Json)) :
    Entries.get? k (entries.map fun e => (e.1, e.2.trimmed)) =
      (Entries.get? k entries).map Json.trimmed := by
  induction entries with
  | nil => rfl
  | cons e rest ih =>
      rw [List.map_cons, Entries.get?, Entries.get?, ih]
      split <;> rfl

theorem restores_of_decodeAt {v : Json} :
    ∀ place t, v.Canonical → decodeAt place v = .ok t → t.Restores v := by
  induction v with
  | null => intro place t _ h; cases h; exact ⟨trivial, rfl⟩
  | bool b => intro place t _ h; cases h; exact ⟨trivial, rfl⟩
  | number n => intro place t _ h; cases h; exact ⟨trivial, rfl⟩
  | string s => intro place t _ h; cases h; exact ⟨trivial, rfl⟩
  | array items ih =>
      intro place t hv h
      rw [decodeAt] at h
      obtain ⟨ts, hts, rfl⟩ := Except.map_eq_ok_iff.mp h
      obtain ⟨hencodable, hencode⟩ := restores_of_decodeItems ih hv hts
      exact ⟨hencodable, congrArg Json.array hencode⟩
  | object entries ih =>
      intro place t hv h
      cases hmarked : Entries.get? matcherKey entries with
      | none =>
          rw [decodeAt_unmarked hmarked] at h
          obtain ⟨ts, hts, rfl⟩ := Except.map_eq_ok_iff.mp h
          obtain ⟨hencodable, hencode⟩ := restores_of_decodeEntries ih hv.2 hts
          have hget := get?_encodeEntries matcherKey ts
          rw [hencode, get?_map_trimmed, hmarked] at hget
          refine ⟨⟨Option.map_eq_none_iff.mp hget.symm, hencodable⟩, ?_⟩
          rw [Json.trimmed_unmarked hmarked, encode, hencode]
      | some marked =>
          obtain ⟨c, w, payload, hholds, hw, hpayload, rfl⟩ :=
            (decodeAt_marked_eq_ok_iff hmarked).mp h
          have hmem := Entries.mem_of_get? hw
          have hcanonical := (Json.canonicalEntries_iff entries).mp hv.2 _ hmem
          exact restores_matcher hv.1 hholds hw (ih _ hmem _ payload hcanonical hpayload)

theorem decode_encode_both_ways :
    (∀ t : Tree, t.Encodable → decode t.encode = .ok t) ∧
      (∀ t : Tree, t.Canonical → t.encode.Canonical) ∧
      (∀ v : Json, v.Lacks matcherKey → decode v = .ok (ofJson v)) ∧
      ∀ (v : Json) (t : Tree), v.Canonical → decode v = .ok t →
        t.Encodable ∧ t.encode = v.trimmed := by
  refine ⟨decodeAt_encode .document, fun t => canonical_encode, ?_, ?_⟩
  · intro v hv
    have h := decodeAt_encode .document (ofJson v) (encodable_ofJson v hv)
    rwa [encode_ofJson] at h
  · intro v t hv h
    exact restores_of_decodeAt .document t hv h

def annotated : Json :=
  .object [("ids", .object [("max", .ofNat64 5), ("note", .object [(matcherKey, .null)]),
    (matcherKey, .string "type"), ("value", .object [("comment", .null),
      (matcherKey, .string "regex"), ("regex", .string "x"), ("value", .array [.null])])])]

def annotatedTree : Tree := .object [("ids", arrayMaxLike 5 (term "x" (.array [.null])))]

theorem decode_annotated :
    decode annotatedTree.encode = .ok annotatedTree ∧ annotatedTree.encode.Canonical ∧
      decode (.array [.null]) = .ok (.array [.null]) ∧ annotated.Canonical ∧
      decode annotated = .ok annotatedTree ∧ annotatedTree.encode = annotated.trimmed := by
  have hencodable : annotatedTree.Encodable := ⟨rfl, ⟨trivial, trivial⟩, trivial⟩
  have htree : annotatedTree.Canonical := by decide
  have hlacks : Json.Lacks matcherKey (.array [.null]) := ⟨trivial, trivial⟩
  have hcanonical : annotated.Canonical :=
    ⟨by decide, ⟨by decide, trivial, ⟨by decide, trivial, trivial⟩, trivial,
      ⟨by decide, trivial, trivial, trivial, ⟨trivial, trivial⟩, trivial⟩, trivial⟩, trivial⟩
  have hdecode : decode annotated = .ok annotatedTree := rfl
  obtain ⟨hread, hat_rest, hplain, hwritten⟩ := decode_encode_both_ways
  exact ⟨hread _ hencodable, hat_rest _ htree, hplain _ hlacks, hcanonical, hdecode,
    (hwritten _ _ hcanonical hdecode).2⟩

end Tree

end ConsumerContract
