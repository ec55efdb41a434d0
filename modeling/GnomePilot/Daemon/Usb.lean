import GnomePilot.Daemon.Pause
import GnomePilot.Lib.Hex
import Mathlib.Data.List.Find

/-!
# USB devices that are plugged in

`gpilotd_gudev_handler` looks a device up in the list of `devices.xml`, which is read once,
by comparing texts.  `hotplug_eq_plan` says that over every run a device is found by its numbers,
and that the first entry with them decides how it is synchronised.
-/

namespace GnomePilot.Daemon.Usb

open Devices Config

/-! ## The list of devices -/

/-- A child of the root element: an element with its attributes, or something else. -/
inductive XmlNode where
  | element (name : String) (attrs : List (String × String))
  | other

structure DevicesXml where
  root : String
  children : List XmlNode

/-- `vendor_product_ids` and `product_net` -/
structure Tables where
  vendorProductIds : List String
  productNet : List Bool

/-- One turn of the loop of `load_devices_xml`. -/
def loadNode (tables : Tables) : XmlNode → Tables
  | .other => tables
  | .element name attrs =>
      if name ≠ "device" then tables
      else
        match attrs.lookup "vendor_id", attrs.lookup "product_id" with
        | some vendor, some product =>
            { vendorProductIds :=
                tables.vendorProductIds ++ ["Vendor=" ++ vendor ++ " ProdID=" ++ product]
              productNet := tables.productNet ++ [decide (attrs.lookup "use_net" ≠ some "false")] }
        -- "No vendor or product id"
        | _, _ => tables

/-- `load_devices_xml`, when nothing is loaded yet; `file` is none if it cannot be read. -/
def loadDevicesXml (file : Option DevicesXml) : Tables :=
  match file with
  | none => ⟨[], []⟩
  | some doc => if doc.root ≠ "device-list" then ⟨[], []⟩ else doc.children.foldl loadNode ⟨[], []⟩

/-- `g_ascii_strncasecmp (s, start, strlen (start)) == 0` -/
def startsIgnoringCase (s start : String) : Bool :=
  (start.toList.map Char.toLower).isPrefixOf (s.toList.map Char.toLower)

def knownUsbDevice (tables : Tables) (matchStr : String) : Option Nat :=
  tables.vendorProductIds.findIdx? (startsIgnoringCase matchStr)

/-- What `usb_device_added` looks for. -/
def matchStr (vendorId productId : UInt32) : String :=
  "Vendor=" ++ String.ofList (Hex.printHex 4 vendorId.toNat) ++
    " ProdID=" ++ String.ofList (Hex.printHex 4 productId.toNat)

/-- `visor_net`, if the device is known. -/
def visorNet (tables : Tables) (vendorId productId : UInt32) : Option Bool :=
  (knownUsbDevice tables (matchStr vendorId productId)).bind fun i => tables.productNet[i]?

/-! ## The handler -/

/-- The digits that `g_ascii_strtoll` reads with base 16. -/
def afterPrefix : List Char → List Char
  | '0' :: x :: cs => if x = 'x' ∨ x = 'X' then cs else '0' :: x :: cs
  | cs => cs

/-- `g_ascii_strtoll (text, NULL, 16)` -/
def asciiStrtoll (text : String) : Int :=
  match text.toList.dropWhile Numeral.isSpace with
  | '-' :: cs => max (-(Hex.value (afterPrefix cs) : Int)) (-2 ^ 63)
  | '+' :: cs => min (Hex.value (afterPrefix cs)) (2 ^ 63 - 1)
  | cs => min (Hex.value (afterPrefix cs)) (2 ^ 63 - 1)

/-- The `int` of a property, -1 without one, as `%x` prints it. -/
def propertyId (property : Option String) : UInt32 :=
  match property with
  | none => UInt32.ofInt (-1)
  | some text => UInt32.ofInt (asciiStrtoll text)

/-- The daemon, none after a freed block was followed, with the tables it has loaded. -/
structure Hotplug where
  daemon : Option GpilotDaemon
  tables : Option Tables

inductive Event where
  | pause (onOff : Bool)
  | rereadConfig (configured : List Configured)
  | ready (source : Nat) (line : Line)
  | resume (opening : Opening)
  | gudev (file : Option DevicesXml) (action : String) (vendor model : Option String)
      (line : Line)

/-- `usb_device_added` up to the call of `sync_device` -/
def usbDeviceAdded (file : Option DevicesXml) (vendorId productId : UInt32) (line : Line)
    (d : GpilotDaemon) (tables : Option Tables) : Hotplug :=
  if d.context.paused then ⟨some d, tables⟩
  else
    let tables := tables.getD (loadDevicesXml file)
    ⟨startUsb d (visorNet tables vendorId productId) line, some tables⟩

def gpilotdGudevHandler (file : Option DevicesXml) (action : String) (vendor model : Option String)
    (line : Line) (d : GpilotDaemon) (tables : Option Tables) : Hotplug :=
  if d.context.paused then ⟨some d, tables⟩
  else if startsIgnoringCase action "add" then
    usbDeviceAdded file (propertyId vendor) (propertyId model) line d tables
  else ⟨some d, tables⟩

def Hotplug.step (h : Hotplug) : Event → Hotplug
  | .pause onOff => { h with daemon := Devices.step h.daemon (.pause onOff) }
  | .rereadConfig configured =>
      { h with daemon := Devices.step h.daemon (.rereadConfig configured) }
  | .ready source line => { h with daemon := Devices.step h.daemon (.ready source line) }
  | .resume opening => { h with daemon := Devices.step h.daemon (.resume opening) }
  | .gudev file action vendor model line =>
      match h.daemon with
      | none => h
      | some d => gpilotdGudevHandler file action vendor model line d h.tables

def Hotplug.start (configured : List Configured) : Hotplug := ⟨Devices.start configured, none⟩

/-! ## What it is for -/

/-- The numbers of an entry, and whether the device speaks the net protocol. -/
structure UsbDevice where
  vendor : Nat
  product : Nat
  net : Bool

abbrev Registry : Type := List UsbDevice

def Registry.find (registry : Registry) (vendor product : Nat) : Option Bool :=
  (List.find? (fun u => u.vendor = vendor ∧ u.product = product) registry).map (·.net)

/-- The ids of a device as they are written, and its protocol. -/
def entry : XmlNode → Option (String × String × Bool)
  | .other => none
  | .element name attrs =>
      if name = "device" then
        (attrs.lookup "vendor_id").bind fun vendor => (attrs.lookup "product_id").map fun product =>
          (vendor, product, decide (attrs.lookup "use_net" ≠ some "false"))
      else none

def usbDevice (e : String × String × Bool) : UsbDevice :=
  ⟨Hex.value e.1.toList, Hex.value e.2.1.toList, e.2.2⟩

def registryOf : Option DevicesXml → Registry
  | none => []
  | some doc =>
      if doc.root = "device-list" then (doc.children.filterMap entry).map usbDevice else []

/-- The daemon with the devices it knows, once it has looked. -/
structure Plan where
  daemon : Option GpilotDaemon
  registry : Option Registry

/-- A device that is added while the daemon is not paused is looked up by its numbers. -/
def Plan.added (p : Plan) (file : Option DevicesXml) (vendor product : Nat) (line : Line) : Plan :=
  match p.daemon with
  | none => p
  | some d =>
      if d.context.paused then p
      else
        let registry := p.registry.getD (registryOf file)
        ⟨Devices.step (some d) (.usbDeviceAdded (registry.find vendor product) line),
          some registry⟩

def numberOf (property : Option String) : Nat := property.elim 0 fun text => Hex.value text.toList

def Plan.step (p : Plan) : Event → Plan
  | .pause onOff => { p with daemon := Devices.step p.daemon (.pause onOff) }
  | .rereadConfig configured =>
      { p with daemon := Devices.step p.daemon (.rereadConfig configured) }
  | .ready source line => { p with daemon := Devices.step p.daemon (.ready source line) }
  | .resume opening => { p with daemon := Devices.step p.daemon (.resume opening) }
  | .gudev file action vendor model line =>
      if startsIgnoringCase action "add" then
        p.added file (numberOf vendor) (numberOf model) line
      else p

def Plan.start (configured : List Configured) : Plan := ⟨Devices.start configured, none⟩

/-! ## Texts and numbers -/

def FourDigits (text : String) : Prop :=
  text.toList.length = 4 ∧ text.toList.all Hex.isHexDigit = true

instance (text : String) : Decidable (FourDigits text) := inferInstanceAs (Decidable (_ ∧ _))

/-- The ids of the devices of a file have four digits each. -/
def DevicesXml.Standard (doc : DevicesXml) : Prop :=
  ∀ e ∈ doc.children.filterMap entry, FourDigits e.1 ∧ FourDigits e.2.1

instance (doc : DevicesXml) : Decidable doc.Standard :=
  inferInstanceAs (Decidable (∀ e ∈ doc.children.filterMap entry, _))

/-- So have those of a device that is added. -/
def Event.Standard : Event → Prop
  | .gudev file _ vendor model _ =>
      (∀ doc ∈ file, doc.Standard) ∧ (∃ text ∈ vendor, FourDigits text) ∧
        ∃ text ∈ model, FourDigits text
  | _ => True

instance : DecidablePred Event.Standard
  | .gudev _ _ _ _ _ => inferInstanceAs (Decidable (_ ∧ _))
  | .pause _ | .rereadConfig _ | .ready _ _ | .resume _ => isTrue trivial

theorem FourDigits.digits {text : String} (h : FourDigits text) :
    ∀ c ∈ text.toList, Hex.isHexDigit c = true := List.all_eq_true.mp h.2

theorem FourDigits.value_lt {text : String} (h : FourDigits text) :
    Hex.value text.toList < 65536 := by
  have hlt := (Hex.map_toLower h.digits).2
  rw [h.1] at hlt
  exact hlt

theorem afterPrefix_of_digits {cs : List Char} (h : ∀ c ∈ cs, Hex.isHexDigit c = true) :
    afterPrefix cs = cs := by
  unfold afterPrefix
  split
  · rename_i x cs
    obtain ⟨-, -, -, hx, hX⟩ := Hex.isHexDigit_not_special (h x (by simp))
    rw [if_neg (by simp [hx, hX])]
  · rfl

/-- Four digits are read as the number they stand for. -/
theorem FourDigits.propertyId {text : String} (h : FourDigits text) :
    (Usb.propertyId (some text)).toNat = Hex.value text.toList := by
  have hlt := h.value_lt
  have hread : asciiStrtoll text = Hex.value text.toList := by
    unfold asciiStrtoll
    have hafter := afterPrefix_of_digits h.digits
    cases hlist : text.toList with
    | nil => simp [FourDigits, hlist] at h
    | cons c cs =>
        rw [hlist] at hlt hafter
        obtain ⟨hspace, hminus, hplus, -⟩ :=
          Hex.isHexDigit_not_special (h.digits c (by simp [hlist]))
        rw [List.dropWhile_cons, hspace]
        simp only [Bool.false_eq_true, if_false]
        split
        · rename_i heq
          exact absurd (List.cons.inj heq).1 hminus
        · rename_i heq
          exact absurd (List.cons.inj heq).1 hplus
        · rw [hafter]
          omega
  rw [Usb.propertyId, hread]
  simp [UInt32.ofInt]
  omega

theorem FourDigits.propertyId_lt {text : String} (h : FourDigits text) :
    (Usb.propertyId (some text)).toNat < 65536 := h.propertyId ▸ h.value_lt

theorem append_prefix_append_iff {α : Type} {a b c d : List α} (h : a.length = b.length) :
    a ++ c <+: b ++ d ↔ a = b ∧ c <+: d := by
  constructor
  · rintro ⟨t, ht⟩
    rw [List.append_assoc] at ht
    obtain ⟨hab, hcd⟩ := List.append_inj ht h
    exact ⟨hab, t, hcd⟩
  · rintro ⟨rfl, hcd⟩
    exact (List.prefix_append_right_inj a).mpr hcd

/-- An entry is found by its numbers. -/
theorem startsIgnoringCase_iff {vendor product : String} (hv : FourDigits vendor)
    (hp : FourDigits product) {vendorId productId : UInt32} (hvId : vendorId.toNat < 65536)
    (hpId : productId.toNat < 65536) :
    startsIgnoringCase (matchStr vendorId productId) ("Vendor=" ++ vendor ++ " ProdID=" ++ product)
        = true ↔
      Hex.value vendor.toList = vendorId.toNat ∧ Hex.value product.toList = productId.toNat := by
  have hlen : ∀ n, n < 65536 → (Hex.printHex 4 n).length = 4 := by
    intro n hn
    rw [Hex.printHex_eq hn (by omega), Hex.length_fixed]
  have hdigits : ∀ {text : String}, FourDigits text → ∀ n, n < 65536 →
      (text.toList.map Char.toLower = (Hex.printHex 4 n).map Char.toLower ↔
        Hex.value text.toList = n) := by
    intro text htext n hn
    have hiff := Hex.map_toLower_eq_iff htext.digits (by rw [htext.1]; omega) (n := n)
      (by rw [htext.1]; exact hn)
    rwa [htext.1] at hiff
  unfold startsIgnoringCase matchStr
  rw [List.isPrefixOf_iff_prefix]
  simp only [String.toList_append, String.toList_ofList, List.map_append, List.append_assoc]
  rw [List.prefix_append_right_inj,
    append_prefix_append_iff (by simp [hv.1, hlen _ hvId]), List.prefix_append_right_inj,
    hdigits hv _ hvId, ← hdigits hp _ hpId]
  refine and_congr_right fun _ =>
    ⟨fun hpre => hpre.eq_of_length ?_, fun heq => heq ▸ List.prefix_refl _⟩
  simp [hp.1, hlen _ hpId]

/-! ## The tables -/

def tablesOf (es : List (String × String × Bool)) : Tables :=
  ⟨es.map fun e => "Vendor=" ++ e.1 ++ " ProdID=" ++ e.2.1, es.map fun e => e.2.2⟩

theorem foldl_loadNode (nodes : List XmlNode) (es : List (String × String × Bool)) :
    nodes.foldl loadNode (tablesOf es) = tablesOf (es ++ nodes.filterMap entry) := by
  induction nodes generalizing es with
  | nil => simp
  | cons node nodes ih =>
      have hnode : loadNode (tablesOf es) node = tablesOf (es ++ (entry node).toList) := by
        cases node with
        | other => simp [loadNode, entry]
        | element name attrs =>
            unfold loadNode entry
            by_cases hname : name = "device"
            · simp only [hname, ne_eq, not_true_eq_false, if_false, if_true]
              cases attrs.lookup "vendor_id" with
              | none => simp
              | some vendor =>
                  cases attrs.lookup "product_id" with
                  | none => simp
                  | some product => simp [tablesOf]
            · simp [hname]
      rw [List.foldl_cons, hnode, ih, List.append_assoc]
      congr 2
      cases hentry : entry node with
      | none => simp [hentry]
      | some e => simp [hentry]

/-- The first entry that a test finds has its own place in both tables. -/
theorem bind_findIdx? {α β γ : Type} (l : List α) (f : α → β) (g : α → γ) (q : β → Bool) :
    (((l.map f).findIdx? q).bind fun i => (l.map g)[i]?) = (l.find? fun a => q (f a)).map g := by
  induction l with
  | nil => rfl
  | cons a l ih =>
      rw [List.map_cons, List.findIdx?_cons, List.find?_cons]
      cases q (f a) with
      | true => rfl
      | false =>
          rw [← ih]
          cases (l.map f).findIdx? q with
          | none => rfl
          | some i => rfl

theorem visorNet_load {file : Option DevicesXml} (h : ∀ doc ∈ file, doc.Standard)
    {vendorId productId : UInt32} (hvendor : vendorId.toNat < 65536)
    (hproduct : productId.toNat < 65536) :
    visorNet (loadDevicesXml file) vendorId productId =
      (registryOf file).find vendorId.toNat productId.toNat := by
  cases file with
  | none => rfl
  | some doc =>
      unfold loadDevicesXml registryOf
      by_cases hroot : doc.root = "device-list"
      · simp only [hroot, ne_eq, not_true_eq_false, if_false, if_true]
        have hload := foldl_loadNode doc.children []
        rw [List.nil_append] at hload
        have hempty : tablesOf [] = ⟨[], []⟩ := rfl
        rw [← hempty, hload, visorNet, knownUsbDevice, tablesOf]
        simp only
        rw [bind_findIdx?, Registry.find]
        rw [List.find?_map, Option.map_map]
        congr 1
        refine List.find?_congr fun e he => ?_
        obtain ⟨h1, h2⟩ := h doc rfl e he
        rw [Bool.eq_iff_iff, startsIgnoringCase_iff h1 h2 hvendor hproduct]
        exact decide_eq_true_iff.symm
      · simp [hroot, visorNet, knownUsbDevice, Registry.find]

/-! ## Runs -/

def Answers (tables : Tables) (registry : Registry) : Prop :=
  ∀ vendorId productId : UInt32, vendorId.toNat < 65536 → productId.toNat < 65536 →
    visorNet tables vendorId productId = registry.find vendorId.toNat productId.toNat

structure Same (h : Hotplug) (p : Plan) : Prop where
  daemon : h.daemon = p.daemon
  known : Option.Rel Answers h.tables p.registry

/-- The list is read if it was not read before. -/
theorem answers_getD {tables : Option Tables} {registry : Option Registry}
    (hknown : Option.Rel Answers tables registry) {file : Option DevicesXml}
    (hfile : ∀ doc ∈ file, doc.Standard) :
    Answers (tables.getD (loadDevicesXml file)) (registry.getD (registryOf file)) := by
  cases hknown with
  | some hanswers => exact hanswers
  | none => exact fun vendorId productId hvendor hproduct => visorNet_load hfile hvendor hproduct

theorem same_added {d : GpilotDaemon} {tables : Option Tables} {registry : Option Registry}
    (hknown : Option.Rel Answers tables registry) {file : Option DevicesXml}
    (hfile : ∀ doc ∈ file, doc.Standard) {vendorId productId : UInt32}
    (hvendor : vendorId.toNat < 65536) (hproduct : productId.toNat < 65536) (line : Line) :
    Same (usbDeviceAdded file vendorId productId line d tables)
      (Plan.added ⟨some d, registry⟩ file vendorId.toNat productId.toNat line) := by
  have hanswers := answers_getD hknown hfile
  unfold usbDeviceAdded Plan.added
  by_cases hpaused : d.context.paused = true
  · simp only [hpaused, if_true]
    exact ⟨rfl, hknown⟩
  · simp only [hpaused]
    exact ⟨congrArg (startUsb d · line) (hanswers vendorId productId hvendor hproduct),
      .some hanswers⟩

theorem step_same {h : Hotplug} {p : Plan} (hsame : Same h p) {e : Event} (he : e.Standard) :
    Same (h.step e) (p.step e) := by
  obtain ⟨daemon, tables⟩ := h
  obtain ⟨daemon', registry⟩ := p
  obtain rfl : daemon = daemon' := hsame.daemon
  cases e with
  | pause onOff => exact ⟨rfl, hsame.known⟩
  | rereadConfig configured => exact ⟨rfl, hsame.known⟩
  | ready source line => exact ⟨rfl, hsame.known⟩
  | resume opening => exact ⟨rfl, hsame.known⟩
  | gudev file action vendor model line =>
      obtain ⟨hfile, ⟨v, rfl, hv⟩, m, rfl, hm⟩ := he
      cases daemon with
      | none =>
          refine ⟨?_, ?_⟩ <;> simp only [Hotplug.step, Plan.step, Plan.added, ite_self]
          exact hsame.known
      | some d =>
          have hadded :=
            same_added (d := d) hsame.known hfile hv.propertyId_lt hm.propertyId_lt line
          rw [hv.propertyId, hm.propertyId] at hadded
          simp only [Hotplug.step, Plan.step, gpilotdGudevHandler]
          by_cases hadd : startsIgnoringCase action "add" = true
          · simp only [hadd, if_true]
            by_cases hpaused : d.context.paused = true
            · simp only [hpaused, if_true, Plan.added]
              exact ⟨rfl, hsame.known⟩
            · rw [if_neg hpaused]
              exact hadded
          · simp only [hadd, Bool.false_eq_true, if_false, ite_self]
            exact ⟨rfl, hsame.known⟩

theorem foldl_same (events : List Event) {h : Hotplug} {p : Plan} (hsame : Same h p)
    (hevents : ∀ e ∈ events, e.Standard) :
    Same (events.foldl Hotplug.step h) (events.foldl Plan.step p) := by
  induction events generalizing h p with
  | nil => exact hsame
  | cons e events ih =>
      exact ih (step_same hsame (hevents e (by simp))) fun e he => hevents e (by simp [he])

/-- Over every run the text comparison finds the device that has the numbers, if these are
written with four digits throughout. -/
theorem hotplug_eq_plan (configured : List Configured) (events : List Event)
    (h : ∀ e ∈ events, e.Standard) :
    (events.foldl Hotplug.step (.start configured)).daemon =
      (events.foldl Plan.step (.start configured)).daemon :=
  (foldl_same events ⟨rfl, .none⟩ h).daemon

/-! ## Two Handsprings -/

def handsprings : DevicesXml where
  root := "device-list"
  children :=
    [.other,
      .element "device" [("vendor_id", "082d"), ("product_id", "0100"), ("use_net", "false")],
      .other, .element "device" [("vendor_id", "082d"), ("product_id", "0200")]]

def plugged : List Event :=
  [.gudev (some handsprings) "add" (some "082D") (some "0100") .connected, .resume .opened,
    .gudev none "add" (some "082d") (some "0200") .connected]

def usbCradle : List Configured :=
  [⟨⟨some "Cradle", none, 57600, none, 2, PILOT_DEVICE_USB_VISOR⟩, .opened⟩]

/-- The visor is synchronised as a serial device, the Treo after it as what it is. -/
theorem handsprings_found :
    (∀ e ∈ plugged, e.Standard) ∧
      (plugged.foldl Hotplug.step (.start usbCradle)).daemon =
        (plugged.foldl Plan.step (.start usbCradle)).daemon ∧
      (plugged.foldl Plan.step (.start usbCradle)).daemon.map (·.running) =
        some [.usbDeviceAdded 0 0 true] := by
  have hstandard : ∀ e ∈ plugged, e.Standard := by decide
  exact ⟨hstandard, hotplug_eq_plan usbCradle plugged hstandard, by rfl⟩

end GnomePilot.Daemon.Usb
