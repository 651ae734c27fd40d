import BacnetBc.Lib.Calendar
import BacnetBc.Objects.Application

/-!
# The device clock

A TimeSynchronization sets the device clock (`setSystemTime`): the offset from the host's clock that
makes it show the requested moment. `getPropertyDate` and `getPropertyTime` serve Local_Date and
Local_Time from it. The host's clock and its time zone, a fixed offset, belong to the environment.

`mktime` is asked whether the requested fields are a moment, but it normalises them.

**Theorem (`setsTheClock_iff`).** A request is either refused and changes nothing or is read back as
it was made, exactly when it is for another device, has an unspecified field, has fields that count
to one second before the epoch, or is a moment of the calendar.
-/

namespace BacnetBc

open Calendar

/-! ## The clock -/

/-- `time(NULL)` and the time zone, in seconds ahead of UTC. -/
structure ClockHost where
  now : Int
  zone : Int

/-- The application and `g_clockOffsetSeconds`. -/
structure DeviceClock (L : Layout) where
  app : Application L
  clockOffsetSeconds : Int

/-- A date and a time as the stack hands them over. -/
structure SystemTime where
  year : UInt8
  month : UInt8
  day : UInt8
  weekday : UInt8
  hour : UInt8
  minute : UInt8
  second : UInt8
  hundrethSeconds : UInt8
deriving DecidableEq, Repr

structure DateOctets where
  yearMinus1900 : UInt8
  month : UInt8
  day : UInt8
  weekday : UInt8
deriving DecidableEq, Repr

structure TimeOctets where
  hour : UInt8
  minute : UInt8
  second : UInt8
  hundredthSecond : UInt8
deriving DecidableEq, Repr

def propertyIdentifierLocalDate : UInt32 := 56
def propertyIdentifierLocalTime : UInt32 := 57
def propertyIdentifierModificationDate : UInt32 := 71

/-- `UNSPECIFIED`. -/
def unspecified : UInt8 := 255

/-- `(uint8_t)`. -/
def asOctet (n : Int) : UInt8 := UInt8.ofNat (n % 256).toNat

def dateOctets (tm : Tm) : DateOctets where
  yearMinus1900 := asOctet tm.year
  month := asOctet (tm.mon + 1)
  day := asOctet tm.mday
  -- 0 is Sunday for tm_wday, and 1 is Monday for BACnet.
  weekday := asOctet ((tm.wday + 6) % 7 + 1)

def timeOctets (tm : Tm) : TimeOctets where
  hour := asOctet tm.hour
  minute := asOctet tm.min
  second := asOctet tm.sec
  hundredthSecond := 0

namespace SystemTime

variable (t : SystemTime)

def HasUnspecified : Prop :=
  t.year = unspecified ∨ t.month = unspecified ∨ t.day = unspecified ∨ t.hour = unspecified ∨
    t.minute = unspecified ∨ t.second = unspecified

instance : Decidable t.HasUnspecified := inferInstanceAs (Decidable (_ ∨ _))

/-- `requestedTm`. -/
def requestedTm : Tm where
  year := t.year.toNat
  mon := t.month.toNat - 1
  mday := t.day.toNat
  hour := t.hour.toNat
  min := t.minute.toNat
  sec := t.second.toNat

/-- What Local_Date should read. -/
def asDate : DateOctets :=
  ⟨t.year, t.month, t.day, UInt8.ofNat (Calendar.weekday (dayNumber t.requestedTm.date))⟩

/-- What Local_Time should read. -/
def asTime : TimeOctets := ⟨t.hour, t.minute, t.second, 0⟩

end SystemTime

namespace DeviceClock

variable {L : Layout}

/-- `SetSystemTime`. -/
def setSystemTime (c : DeviceClock L) (host : ClockHost) (deviceInstance : UInt32)
    (t : SystemTime) : DeviceClock L × Bool :=
  if deviceInstance ≠ c.app.options.deviceInstance then (c, false)
  else if t.HasUnspecified then (c, false)
  else
    let requestedTime := mktime host.zone t.requestedTm
    if requestedTime = -1 then (c, false)
    else ({ c with clockOffsetSeconds := requestedTime - host.now }, true)

/-- `GetCurrentLocalTm`. -/
def getCurrentLocalTm (c : DeviceClock L) (host : ClockHost) : Tm :=
  localtime host.zone (host.now + c.clockOffsetSeconds)

/-- `GetCertificateFileModified`: `gmtime` of the file's time. -/
def getCertificateFileModified (c : DeviceClock L) (d : CertDisk) (fileInstance : UInt32) :
    Option Tm :=
  if Application.isCertificateFile fileInstance then
    (c.app.store.stat d fileInstance.toNat).map fun found => localtime 0 found.2
  else none

/-- The Modification_Date of a certificate file. -/
def modificationDate (c : DeviceClock L) (d : CertDisk) (p : PropertyReference) : Option Tm :=
  if c.app.isScCertificateFile p = true ∧
      p.propertyIdentifier = propertyIdentifierModificationDate then
    c.getCertificateFileModified d p.objectInstance
  else none

/-- `GetPropertyTime`. -/
def getPropertyTime (c : DeviceClock L) (host : ClockHost) (d : CertDisk)
    (p : PropertyReference) : Served TimeOctets :=
  if p.deviceInstance ≠ c.app.options.deviceInstance then .declined
  else if p.objectType = objectTypeFile ∧ p.objectInstance = objectInstance1 ∧
      p.propertyIdentifier = propertyIdentifierModificationDate then .value ⟨0, 0, 0, 0⟩
  else if let some modifiedUtc := c.modificationDate d p then .value (timeOctets modifiedUtc)
  else if p.objectType = objectTypeDevice ∧ p.objectInstance = c.app.options.deviceInstance ∧
      p.propertyIdentifier = propertyIdentifierLocalTime then
    .value (timeOctets (c.getCurrentLocalTm host))
  else .declined

/-- `GetPropertyDate`. -/
def getPropertyDate (c : DeviceClock L) (host : ClockHost) (d : CertDisk)
    (p : PropertyReference) : Served DateOctets :=
  if p.deviceInstance ≠ c.app.options.deviceInstance then .declined
  else if p.objectType = objectTypeFile ∧ p.objectInstance = objectInstance1 ∧
      p.propertyIdentifier = propertyIdentifierModificationDate then
    -- nominal 2026-01-01 Thu
    .value ⟨126, 1, 1, 4⟩
  else if let some modifiedUtc := c.modificationDate d p then .value (dateOctets modifiedUtc)
  else if p.objectType = objectTypeDevice ∧ p.objectInstance = c.app.options.deviceInstance ∧
      p.propertyIdentifier = propertyIdentifierLocalDate then
    .value (dateOctets (c.getCurrentLocalTm host))
  else .declined

/-- A property of the device's own Device object. -/
def deviceReference (c : DeviceClock L) (propertyIdentifier : UInt32) : PropertyReference :=
  ⟨c.app.options.deviceInstance, objectTypeDevice, c.app.options.deviceInstance,
    propertyIdentifier, false, 0⟩

def localDate (c : DeviceClock L) (host : ClockHost) (d : CertDisk) : Served DateOctets :=
  c.getPropertyDate host d (c.deviceReference propertyIdentifierLocalDate)

def localTime (c : DeviceClock L) (host : ClockHost) (d : CertDisk) : Served TimeOctets :=
  c.getPropertyTime host d (c.deviceReference propertyIdentifierLocalTime)

theorem localDate_eq (c : DeviceClock L) (host : ClockHost) (d : CertDisk) :
    c.localDate host d = .value (dateOctets (c.getCurrentLocalTm host)) := by
  have hfile : objectTypeDevice ≠ objectTypeFile := by decide
  simp [localDate, getPropertyDate, modificationDate, deviceReference,
    Application.isScCertificateFile, hfile]

theorem localTime_eq (c : DeviceClock L) (host : ClockHost) (d : CertDisk) :
    c.localTime host d = .value (timeOctets (c.getCurrentLocalTm host)) := by
  have hfile : objectTypeDevice ≠ objectTypeFile := by decide
  simp [localTime, getPropertyTime, modificationDate, deviceReference,
    Application.isScCertificateFile, hfile]

/-! ## Octets -/

theorem toNat_asOctet {n : Int} (h : 0 ≤ n) (h' : n < 256) : ((asOctet n).toNat : Int) = n := by
  have hlt : (n % 256).toNat < 256 := by omega
  rw [asOctet, UInt8.toNat_ofNat_of_lt' hlt]
  omega

theorem asOctet_toNat (u : UInt8) : asOctet (u.toNat : Int) = u := by
  have hlt := u.toNat_lt
  have hmod : ((u.toNat : Int) % 256).toNat = u.toNat := by omega
  rw [asOctet, hmod, UInt8.ofNat_toNat]

/-- An octet that shows a small number is that number. -/
theorem toNat_of_asOctet_eq {n : Int} {u : UInt8} (h : asOctet n = u) (h0 : 0 ≤ n)
    (h256 : n < 256) : (u.toNat : Int) = n := by
  rw [← h, toNat_asOctet h0 h256]

/-! ## A request -/

variable (c : DeviceClock L) (host : ClockHost) (d : CertDisk) (t : SystemTime)

/-- Local_Date and Local_Time read the request. -/
def ReadsBack : Prop :=
  c.localDate host d = .value t.asDate ∧ c.localTime host d = .value t.asTime

/-- An accepted request is read back as it was made, a refused one changes nothing, and what is no
moment of the calendar is refused. -/
def SetsTheClock (deviceInstance : UInt32) : Prop :=
  ((c.setSystemTime host deviceInstance t).2 = true →
    (c.setSystemTime host deviceInstance t).1.ReadsBack host d t) ∧
  ((c.setSystemTime host deviceInstance t).2 = false →
    (c.setSystemTime host deviceInstance t).1.clockOffsetSeconds = c.clockOffsetSeconds) ∧
  (¬ t.requestedTm.IsReal → (c.setSystemTime host deviceInstance t).2 = false)

/-- A request for another device, or with an unspecified field, or with fields that count to one
second before the epoch in the time zone of the host. -/
def IsRefused (deviceInstance : UInt32) : Prop :=
  deviceInstance ≠ c.app.options.deviceInstance ∨ t.HasUnspecified ∨
    t.requestedTm.localSecond = host.zone - 1

variable {c host d t} {deviceInstance : UInt32}

/-- The second before the epoch is what `mktime` returns for an error. -/
theorem mktime_eq_error_iff :
    mktime host.zone t.requestedTm = -1 ↔ t.requestedTm.localSecond = host.zone - 1 := by
  rw [mktime_eq_localSecond]
  omega

theorem setSystemTime_of_refused (h : c.IsRefused host t deviceInstance) :
    c.setSystemTime host deviceInstance t = (c, false) := by
  unfold setSystemTime
  by_cases hdevice : deviceInstance ≠ c.app.options.deviceInstance
  · rw [if_pos hdevice]
  rw [if_neg hdevice]
  by_cases hunspecified : t.HasUnspecified
  · rw [if_pos hunspecified]
  rw [if_neg hunspecified]
  exact if_pos (mktime_eq_error_iff.2 ((h.resolve_left hdevice).resolve_left hunspecified))

theorem setSystemTime_of_accepted (h : ¬ c.IsRefused host t deviceInstance) :
    c.setSystemTime host deviceInstance t =
      ({ c with clockOffsetSeconds := mktime host.zone t.requestedTm - host.now }, true) := by
  rw [IsRefused, not_or, not_or] at h
  obtain ⟨hdevice, hunspecified, htime⟩ := h
  unfold setSystemTime
  rw [if_neg hdevice, if_neg hunspecified]
  exact if_neg fun herror => htime (mktime_eq_error_iff.1 herror)

/-- At the same host instant the clock shows the moment that `mktime` made of the request. -/
theorem getCurrentLocalTm_of_accepted (h : ¬ c.IsRefused host t deviceInstance) :
    (c.setSystemTime host deviceInstance t).1.getCurrentLocalTm host =
      localtime host.zone (mktime host.zone t.requestedTm) := by
  rw [setSystemTime_of_accepted h, getCurrentLocalTm]
  congr 1
  dsimp only
  omega

theorem readsBack_iff (h : ¬ c.IsRefused host t deviceInstance) :
    (c.setSystemTime host deviceInstance t).1.ReadsBack host d t ↔
      dateOctets (localtime host.zone (mktime host.zone t.requestedTm)) = t.asDate ∧
        timeOctets (localtime host.zone (mktime host.zone t.requestedTm)) = t.asTime := by
  rw [ReadsBack, localDate_eq, localTime_eq, getCurrentLocalTm_of_accepted h]
  simp only [Served.value.injEq]

/-- **A moment of the calendar is read back.** -/
theorem octets_of_isReal (zone : Int) (hreal : t.requestedTm.IsReal) :
    dateOctets (localtime zone (mktime zone t.requestedTm)) = t.asDate ∧
      timeOctets (localtime zone (mktime zone t.requestedTm)) = t.asTime := by
  rw [localtime_mktime zone hreal]
  constructor
  · unfold dateOctets SystemTime.asDate
    have hmonth : t.requestedTm.mon + 1 = t.month.toNat := Int.sub_add_cancel _ _
    have hweekday : ((dayNumber t.requestedTm.date + 4) % 7 + 6) % 7 + 1 =
        (Calendar.weekday (dayNumber t.requestedTm.date) : Int) := by
      unfold Calendar.weekday
      omega
    have hlt : Calendar.weekday (dayNumber t.requestedTm.date) < 256 := by
      unfold Calendar.weekday
      omega
    have hmod : ((Calendar.weekday (dayNumber t.requestedTm.date) : Int) % 256).toNat =
        Calendar.weekday (dayNumber t.requestedTm.date) := by omega
    dsimp only
    rw [hmonth, hweekday, asOctet_toNat]
    unfold asOctet
    rw [hmod]
    congr 1
    · exact asOctet_toNat t.year
    · exact asOctet_toNat t.day
  · unfold timeOctets SystemTime.asTime
    congr 1
    · exact asOctet_toNat t.hour
    · exact asOctet_toNat t.minute
    · exact asOctet_toNat t.second

/-- **What is read back is a moment of the calendar.** -/
theorem isReal_of_octets {zone : Int}
    (hdate : dateOctets (localtime zone (mktime zone t.requestedTm)) = t.asDate)
    (htime : timeOctets (localtime zone (mktime zone t.requestedTm)) = t.asTime) :
    t.requestedTm.IsReal := by
  obtain ⟨hmon, hmday, hreal, hhour, hhour', hmin, hmin', hsec, hsec'⟩ :=
    localtime_isReal zone (mktime zone t.requestedTm)
  have hday := congrArg dayNumber (localtime_date zone (mktime zone t.requestedTm))
  rw [(ofDayNumber_spec _).2] at hday
  generalize localtime zone (mktime zone t.requestedTm) = tm at *
  have hmonth12 : (tm.mon + 1).toNat ≤ 12 := hreal.2.1
  have hday31 : tm.mday.toNat ≤ 31 :=
    hreal.2.2.2.trans (monthLengths_bounds _ (by show (tm.mon + 1).toNat - 1 < 12; omega)).2
  -- Each octet that is read back is small, so the field is the one that was requested.
  have hmonth := toNat_of_asOctet_eq (congrArg DateOctets.month hdate) (by omega) (by omega)
  have hmdayEq := toNat_of_asOctet_eq (congrArg DateOctets.day hdate) hmday (by omega)
  have hhourEq := toNat_of_asOctet_eq (congrArg TimeOctets.hour htime) hhour (by omega)
  have hminEq := toNat_of_asOctet_eq (congrArg TimeOctets.minute htime) hmin (by omega)
  have hsecEq := toNat_of_asOctet_eq (congrArg TimeOctets.second htime) hsec (by omega)
  change (t.month.toNat : Int) = tm.mon + 1 at hmonth
  change (t.day.toNat : Int) = tm.mday at hmdayEq
  change (t.hour.toNat : Int) = tm.hour at hhourEq
  change (t.minute.toNat : Int) = tm.min at hminEq
  change (t.second.toNat : Int) = tm.sec at hsecEq
  have hfields : t.requestedTm = ⟨t.year.toNat, tm.mon, tm.mday, tm.hour, tm.min, tm.sec, 0⟩ := by
    unfold SystemTime.requestedTm
    rw [hmonth, hmdayEq, hhourEq, hminEq, hsecEq, Int.add_sub_cancel]
  have hdate' : tm.date = ⟨1900 + tm.year, (tm.mon + 1).toNat, tm.mday.toNat⟩ := rfl
  have hyear : 1900 + (t.year.toNat : Int) = 1900 + tm.year := by
    have hmonth1 : 1 ≤ (tm.mon + 1).toNat := by omega
    apply year_eq_of_dayNumber_first hmonth1 hmonth12
    have hzero : tm.mon / 12 = 0 := by omega
    have hmod : (tm.mon % 12).toNat + 1 = (tm.mon + 1).toNat := by omega
    rw [hdate', dayNumber_eq_add, hfields] at hday
    unfold mktime at hday
    dsimp only at hday
    rw [hzero, hmod, Int.add_zero] at hday
    omega
  have hrequested : t.requestedTm.date = tm.date := by
    rw [hfields, hdate', ← hyear]
    rfl
  rw [Tm.IsReal, hrequested, hfields]
  exact ⟨hmon, hmday, hreal, hhour, hhour', hmin, hmin', hsec, hsec'⟩

/-- **Exactly the refused requests and the moments of the calendar.** -/
theorem setsTheClock_iff (c : DeviceClock L) (host : ClockHost) (d : CertDisk) (t : SystemTime)
    (deviceInstance : UInt32) :
    c.SetsTheClock host d t deviceInstance ↔
      c.IsRefused host t deviceInstance ∨ t.requestedTm.IsReal := by
  by_cases hrefused : c.IsRefused host t deviceInstance
  · refine ⟨fun _ => .inl hrefused, fun _ => ?_⟩
    rw [SetsTheClock, setSystemTime_of_refused hrefused]
    exact ⟨fun h => absurd h Bool.false_ne_true, fun _ => rfl, fun _ => rfl⟩
  · have haccepted := congrArg Prod.snd (setSystemTime_of_accepted hrefused)
    constructor
    · intro h
      obtain ⟨hdate, htime⟩ := (readsBack_iff hrefused).1 (h.1 haccepted)
      exact .inr (isReal_of_octets hdate htime)
    · intro h
      have hreal := h.resolve_left hrefused
      refine ⟨fun _ => (readsBack_iff hrefused).2 (octets_of_isReal host.zone hreal), ?_,
        fun hnot => absurd hreal hnot⟩
      intro hfalse
      rw [haccepted] at hfalse
      cases hfalse

end DeviceClock

/-- 2026, in all odd months, on the 25th, at 10:00. -/
def oddMonthsTime : SystemTime := ⟨126, 13, 25, 255, 10, 0, 0, 0⟩

/-- On a host at the epoch in UTC. It is accepted, and Local_Date reads 2027-01-25, a Monday. -/
theorem oddMonths_is_accepted : ∃ (L : Layout) (c : DeviceClock L) (host : ClockHost)
    (d : CertDisk) (deviceInstance : UInt32),
    (c.setSystemTime host deviceInstance oddMonthsTime).2 = true ∧
    (c.setSystemTime host deviceInstance oddMonthsTime).1.localDate host d =
      .value ⟨127, 1, 25, 1⟩ ∧
    ¬ c.SetsTheClock host d oddMonthsTime deviceInstance := by
  let L := (prepareLayout "certs" "cert1/device-389005/port-4").toLayout
  let c : DeviceClock L := ⟨.start L {} ⟨⟨0⟩, 64, false⟩, 0⟩
  have haccepted : (c.setSystemTime ⟨0, 0⟩ 389005 oddMonthsTime).2 = true := by rfl
  refine ⟨L, c, ⟨0, 0⟩, fun _ => none, 389005, haccepted, ?_, ?_⟩
  · rw [DeviceClock.localDate_eq]
    rfl
  · intro h
    have hrefused := h.2.2 (by decide)
    rw [haccepted] at hrefused
    cases hrefused

end BacnetBc
