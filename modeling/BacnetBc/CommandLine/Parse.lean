import BacnetBc.Cari.Validate
import BacnetBc.Cari.Zip
import BacnetBc.Lib.Decimal
import BacnetBc.Objects.Application

/-!
# Reading the command line

`ParseCommandLine` reads the arguments from left to right. `--xml` stands alone; every other option
takes the argument after it as its value, whatever that looks like. What an option means for the
chosen data link is checked after the last argument, so `--datalink` may come after the options it
governs.

**The arguments** are `argv[1]` on, each with the octets before its NUL. On an error the caller
exits at once, so the options read until then are left out of the result.

**What the build decides** (`Build`). The largest `unsigned long`, which C lets be no smaller than
`0xFFFFFFFF`, and whether `BBC_HAS_76800_BAUD` is defined.
-/

namespace BacnetBc.CommandLine

open Memory Cari

structure Build where
  ulongMax : Nat
  has76800Baud : Bool
  le_ulongMax : 0xFFFFFFFF ≤ ulongMax
deriving DecidableEq

/-! ## Numbers -/

/-- What `strtoul` returns, where it stopped, and whether it set `errno` to `ERANGE`. -/
structure Strtoul where
  value : Nat
  parseEnd : Octets
  outOfRange : Bool
deriving DecidableEq

/-- `isspace` in the C locale. -/
def isSpace (octet : UInt8) : Bool := octet == 0x20 || (0x09 ≤ octet && octet ≤ 0x0D)

def strtoul (b : Build) (text : Octets) : Strtoul :=
  let unspaced := text.dropWhile isSpace
  let negative := unspaced.head? == some 0x2D
  let signed := negative || unspaced.head? == some 0x2B
  let unsigned := if signed then unspaced.tail else unspaced
  let digits := unsigned.takeWhile Decimal.isDigit
  let rest := unsigned.dropWhile Decimal.isDigit
  if digits = [] then { value := 0, parseEnd := text, outOfRange := false }
  else if b.ulongMax < Decimal.value digits then
    { value := b.ulongMax, parseEnd := rest, outOfRange := true }
  else if negative then
    -- the value is negated in the unsigned type
    { value := (b.ulongMax + 1 - Decimal.value digits) % (b.ulongMax + 1), parseEnd := rest,
      outOfRange := false }
  else { value := Decimal.value digits, parseEnd := rest, outOfRange := false }

/-- `ParseNumber`: a decimal number in [minimum, maximum]. -/
def parseNumber (b : Build) (text : Octets) (minimum maximum : Nat) : Option Nat :=
  if !text.head?.any Decimal.isDigit then none
  else
    let parsed := strtoul b text
    if parsed.outOfRange || parsed.parseEnd == text || parsed.parseEnd != [] ||
        parsed.value < minimum || maximum < parsed.value then none
    else some parsed.value

/-! ## The options -/

/-- `DATA_LINK_OPTIONS`: the options that only mean something on one data link. -/
inductive LinkOption
  | interface
  | mstpPort
  | mstpBaud
  | mstpMac
  | mstpMaxMaster
  | mstpMaxInfoFrames
  | scHub
  | scFailoverHub
  | scCertDir
  | importCari
deriving DecidableEq, Repr

namespace LinkOption

def name : LinkOption → String
  | interface => "--interface"
  | mstpPort => "--mstp-port"
  | mstpBaud => "--mstp-baud"
  | mstpMac => "--mstp-mac"
  | mstpMaxMaster => "--mstp-max-master"
  | mstpMaxInfoFrames => "--mstp-max-info-frames"
  | scHub => "--sc-hub"
  | scFailoverHub => "--sc-failover-hub"
  | scCertDir => "--sc-cert-dir"
  | importCari => "--import-cari"

/-- The data link it belongs to. -/
def dataLink : LinkOption → DataLink
  | interface => .ipv6
  | mstpPort | mstpBaud | mstpMac | mstpMaxMaster | mstpMaxInfoFrames => .mstp
  | scHub | scFailoverHub | scCertDir | importCari => .sc

/-- The table, in its order. -/
def all : List LinkOption :=
  [interface, mstpPort, mstpBaud, mstpMac, mstpMaxMaster, mstpMaxInfoFrames, scHub, scFailoverHub,
    scCertDir, importCari]

theorem mem_all (o : LinkOption) : o ∈ all := by
  cases o <;> decide

end LinkOption

/-- The options that take a value. -/
inductive ValueOption
  | datalink
  | deviceID
  | deviceName
  | port
  | link (o : LinkOption)
deriving DecidableEq, Repr

namespace ValueOption

def name : ValueOption → String
  | datalink => "--datalink"
  | deviceID => "--deviceID"
  | deviceName => "--deviceName"
  | port => "--port"
  | link o => o.name

def all : List ValueOption := [datalink, deviceID, deviceName, port] ++ LinkOption.all.map link

/-- `IsKnownOption`, with the option that the argument is. -/
def ofArgument (argument : Octets) : Option ValueOption :=
  all.find? fun o => octetsOf o.name = argument

theorem ofArgument_name (o : ValueOption) : ofArgument (octetsOf o.name) = some o := by
  cases o with
  | link o => cases o <;> decide
  | datalink => rfl
  | deviceID => rfl
  | deviceName => rfl
  | port => rfl

theorem ofArgument_eq_some {argument : Octets} {o : ValueOption}
    (h : ofArgument argument = some o) : argument = octetsOf o.name := by
  have hname := List.find?_some h
  exact (of_decide_eq_true hname).symm

end ValueOption

/-- `DataLinkArgument`. -/
def dataLinkArgument : DataLink → String
  | .ipv4 => "ipv4"
  | .ipv6 => "ipv6"
  | .mstp => "mstp"
  | .sc => "sc"

/-- `DataLinkName`. -/
def dataLinkName : DataLink → String
  | .ipv4 => "BACnet/IP"
  | .ipv6 => "BACnet/IPv6"
  | .mstp => "MS/TP"
  | .sc => "BACnet/SC"

/-- The data link that a value of `--datalink` names. -/
def dataLinkOf (value : Octets) : Option DataLink :=
  if value = octetsOf "ipv4" ∨ value = octetsOf "ip" then some .ipv4
  else if value = octetsOf "ipv6" then some .ipv6
  else if value = octetsOf "mstp" then some .mstp
  else if value = octetsOf "sc" then some .sc
  else none

/-! ## What the arguments settle -/

/-- `struct CommandLineOptions`, with the fields that only the start-up reads. -/
structure Options extends CommandLineOptions where
  ipv6InterfaceIndex : UInt32 := 0
  mstpPortName : Octets := []
  mstpMacAddress : UInt8 := 1
  scPrimaryHubUri : Octets := []
  scFailoverHubUri : Octets := []
  scCertificateDirectory : Octets := octetsOf "./certs"
  importCariZip : Octets := []
deriving DecidableEq

/-- What the loop of `ParseCommandLine` has settled: `portGiven` and `dataLinkOptionsGiven` are for
the checks after it. -/
structure Settled where
  options : Options := {}
  portGiven : Bool := false
  given : LinkOption → Bool := fun _ => false

/-- What `Fail` prints. -/
def fail (problem : Octets) : Octets :=
  octetsOf "Error: " ++ problem ++ octetsOf "\nRun with --help for every option.\n"

/-- A problem with one value of an option. -/
def badValue (option : String) (value : Octets) (why : String) : Octets :=
  fail (octetsOf option ++ octetsOf " " ++ quoted value ++ octetsOf " " ++ octetsOf why)

def supportedBaudRates : List Nat := [9600, 19200, 38400, 57600, 76800, 115200]

/-- The check of a hub URI: `--sc-hub` or `--sc-failover-hub`. -/
def readHubUri (o : LinkOption) (value : Octets) : Except Octets Octets :=
  if !startsWith value (octetsOf "wss://") || value.length ≤ 6 then
    .error (badValue o.name value "is not a secure WebSocket URI (wss://host:port)")
  else if 255 < value.length then
    .error (fail (octetsOf o.name ++ octetsOf " is longer than 255 characters"))
  else .ok value

/-- The value of a data-link option. -/
def readLinkValue (b : Build) (o : LinkOption) (value : Octets) (options : Options) :
    Except Octets Options :=
  match o with
  | .interface =>
    match parseNumber b value 1 0xFFFFFFFF with
    | none => .error (badValue o.name value "is not an interface index")
    | some number => .ok { options with ipv6InterfaceIndex := .ofNat number }
  | .mstpPort => .ok { options with mstpPortName := value }
  | .mstpBaud =>
    match (parseNumber b value 1 0xFFFFFFFF).filter (· ∈ supportedBaudRates) with
    | none => .error (badValue o.name value
        "is not an MS/TP baud rate (9600, 19200, 38400, 57600, 76800 or 115200)")
    | some number =>
      if !b.has76800Baud && number == 76800 then
        .error (fail (octetsOf "--mstp-baud " ++ value ++
          octetsOf " is not available on this system: its termios has no B76800"))
      else .ok { options with mstpBaudRate := .ofNat number }
  | .mstpMac =>
    match parseNumber b value 0 127 with
    | none => .error (badValue o.name value "is not an MS/TP master MAC address (0..127)")
    | some number => .ok { options with mstpMacAddress := .ofNat number }
  | .mstpMaxMaster =>
    match parseNumber b value 1 127 with
    | none => .error (badValue o.name value "is not 1..127")
    | some number => .ok { options with mstpMaxMaster := .ofNat number }
  | .mstpMaxInfoFrames =>
    match parseNumber b value 1 255 with
    | none => .error (badValue o.name value "is not 1..255")
    | some number => .ok { options with mstpMaxInfoFrames := .ofNat number }
  | .scHub => (readHubUri o value).map fun uri => { options with scPrimaryHubUri := uri }
  | .scFailoverHub => (readHubUri o value).map fun uri => { options with scFailoverHubUri := uri }
  | .scCertDir => .ok { options with scCertificateDirectory := value }
  | .importCari => .ok { options with importCariZip := value }

/-- One option with its value: the body of the loop. -/
def readValue (b : Build) (o : ValueOption) (value : Octets) (s : Settled) :
    Except Octets Settled :=
  match o with
  | .datalink =>
    match dataLinkOf value with
    | none => .error (badValue o.name value
        "is not a data link this example knows (ipv4, ipv6, mstp or sc)")
    | some dataLink => .ok { s with options := { s.options with dataLink := dataLink } }
  | .deviceID =>
    match parseNumber b value 0 4194302 with
    | none => .error (badValue o.name value "is not a device instance (0..4194302)")
    | some number => .ok { s with options := { s.options with deviceInstance := .ofNat number } }
  | .deviceName => .ok s -- `ParseDeviceNameArg` reads it
  | .port =>
    match parseNumber b value 1 65535 with
    | none => .error (badValue o.name value "is not a UDP port (1..65535)")
    | some number =>
      .ok { s with options := { s.options with udpPort := .ofNat number }, portGiven := true }
  | .link o =>
    (readLinkValue b o value s.options).map fun options =>
      { s with options := options, given := Function.update s.given o true }

/-- The loop of `ParseCommandLine`. -/
def readArguments (b : Build) : List Octets → Settled → Except Octets Settled
  | [], s => .ok s
  | option :: rest, s =>
    if option = octetsOf "--xml" then readArguments b rest s
    else if !startsWith option (octetsOf "--") then
      .error (fail (octetsOf "unexpected argument " ++ quoted option))
    else
      match ValueOption.ofArgument option with
      | none => .error (fail (octetsOf "unknown option " ++ quoted option))
      | some o =>
        match rest with
        | [] => .error (fail (option ++ octetsOf " needs a value"))
        | value :: rest =>
          match readValue b o value s with
          | .error problem => .error problem
          | .ok s => readArguments b rest s

/-- A data-link option of another data link. -/
def wrongDataLink (o : LinkOption) (chosen : DataLink) : Octets :=
  octetsOf ("Error: " ++ o.name ++ " is a --datalink " ++ dataLinkArgument o.dataLink ++
    " option, but the data link is " ++ dataLinkName chosen ++ " (--datalink " ++
    dataLinkArgument chosen ++ ").\nAdd --datalink " ++ dataLinkArgument o.dataLink ++
    ", or leave " ++ o.name ++ " out. Run with --help for every option.\n")

/-- The checks after the loop. -/
def checkCombination (s : Settled) : Option Octets :=
  match LinkOption.all.find? fun o => s.given o && o.dataLink != s.options.dataLink with
  | some o => some (wrongDataLink o s.options.dataLink)
  | none =>
    if s.portGiven && (s.options.dataLink == .mstp || s.options.dataLink == .sc) then
      some (fail (octetsOf ("--port is a UDP port, for --datalink ipv4 or ipv6; " ++
        dataLinkName s.options.dataLink ++ " has none")))
    else if s.options.dataLink == .mstp && s.options.mstpPortName.isEmpty then
      some (fail (octetsOf
        ("--datalink mstp needs the serial port: --mstp-port COM3 (Windows) or " ++
          "--mstp-port /dev/ttyUSB0 (Linux)")))
    else if s.options.dataLink == .mstp && s.options.mstpMaxMaster < s.options.mstpMacAddress then
      some (octetsOf "Error: --mstp-mac " ++ Decimal.text s.options.mstpMacAddress.toNat ++
        octetsOf " is above --mstp-max-master " ++ Decimal.text s.options.mstpMaxMaster.toNat ++
        octetsOf ": no station would ever pass this one the token.\n")
    else if s.options.dataLink == .sc && s.options.scPrimaryHubUri.isEmpty &&
        s.options.importCariZip.isEmpty then
      some (fail (octetsOf "--datalink sc needs the hub to connect to: --sc-hub wss://host:port"))
    else none

/-- What an argument asks for that wins over everything else. -/
inductive Printed
  | usage
  | version
deriving DecidableEq, Repr

def printedFor (argument : Octets) : Option Printed :=
  if argument = octetsOf "--help" ∨ argument = octetsOf "-h" ∨ argument = octetsOf "/?" then
    some .usage
  else if argument = octetsOf "--version" then some .version
  else none

/-- `enum class ParseResult`. -/
inductive ParseResult
  | run
  | exitSuccess
  | exitError
deriving DecidableEq, Repr

/-- A `ParseResult` with what comes with it: the options, or what was printed. -/
inductive Parsed
  | run (options : Options)
  | exitSuccess (printed : Printed)
  | exitError (stderr : Octets)
deriving DecidableEq

def Parsed.result : Parsed → ParseResult
  | run _ => .run
  | exitSuccess _ => .exitSuccess
  | exitError _ => .exitError

/-- `ParseCommandLine`. -/
def parseCommandLine (b : Build) (args : List Octets) : Parsed :=
  match args.findSome? printedFor with
  | some printed => .exitSuccess printed
  | none =>
    match readArguments b args {} with
    | .error problem => .exitError problem
    | .ok s =>
      match checkCombination s with
      | some problem => .exitError problem
      | none => .run s.options

end BacnetBc.CommandLine
