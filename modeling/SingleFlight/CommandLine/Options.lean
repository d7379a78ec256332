import SingleFlight.Decimal.Reading
import SingleFlight.Time.Duration

namespace SingleFlight.CommandLine

/-- An option that takes a value. -/
inductive OptionName where
  | threads
  | requests
  | keys
  | skew
  | ttlMs
  | produceMs
  | failureRate
  | abandonRate
  | waitMs
  | lockHoldMs
  | sweepMs
  | strategies
  | outputCsv
  | seed
  deriving DecidableEq, Repr

namespace OptionName

/-- The word that an option is given by, behind two dashes. -/
def word : OptionName → String
  | threads => "threads"
  | requests => "requests"
  | keys => "keys"
  | skew => "skew"
  | ttlMs => "ttl-ms"
  | produceMs => "produce-ms"
  | failureRate => "failure-rate"
  | abandonRate => "abandon-rate"
  | waitMs => "wait-ms"
  | lockHoldMs => "lock-hold-ms"
  | sweepMs => "sweep-ms"
  | strategies => "strategies"
  | outputCsv => "output-csv"
  | seed => "seed"

def all : List OptionName :=
  [threads, requests, keys, skew, ttlMs, produceMs, failureRate, abandonRate, waitMs, lockHoldMs,
    sweepMs, strategies, outputCsv, seed]

def ofWord? (word : String) : Option OptionName := all.find? fun option => option.word == word

/-- Whether an option takes several values and may be given more than once. -/
def takesMany : OptionName → Bool
  | strategies => true
  | _ => false

/-- What stands for the value of an option where it is described. -/
def placeholder : OptionName → String
  | outputCsv => "PATH"
  | option => String.ofList (option.word.toList.map fun c => if c == '-' then '_' else c.toUpper)

/-- An option as it is described. -/
def describe (option : OptionName) : String :=
  "--" ++ option.word ++ " <" ++ option.placeholder ++ ">"
    ++ (if option.takesMany then "..." else "")

end OptionName

/-- What the options stand at. -/
structure Options where
  threads : Nat
  requests : Nat
  keys : Nat
  skew : Float
  ttl : Duration
  produceTime : Duration
  failureRate : Float
  abandonRate : Float
  wait : Duration
  lockHold : Duration
  sweepInterval : Duration
  /-- The names of strategies, if any were given. -/
  strategies : List String
  outputPath : Option String
  seed : Nat

namespace Options

/-- What the options stand at when none is given. -/
def standard : Options where
  threads := 8
  requests := 2000
  keys := 100
  skew := 1.0
  ttl := .ofMillis 200
  produceTime := .ofMillis 5
  failureRate := 0.0
  abandonRate := 0.0
  wait := .ofMillis 1000
  lockHold := .ofMillis 500
  sweepInterval := .ofMillis 250
  strategies := []
  outputPath := none
  seed := 42

/-- Why a value does not fit its option. -/
inductive ValueError where
  | missing
  | unreadable (reason : Decimal.ReadError)
  deriving DecidableEq, Repr

def count (text : String) : Except ValueError Nat :=
  (Decimal.readCount text).mapError .unreadable

def float (text : String) : Except ValueError Float :=
  (Decimal.readFloat text).mapError .unreadable

def millis (text : String) : Except ValueError Duration := Duration.ofMillis <$> count text

/-- Sets an option to the text given for it. -/
def set (options : Options) (text : String) : OptionName → Except ValueError Options
  | .threads => (fun threads => { options with threads }) <$> count text
  | .requests => (fun requests => { options with requests }) <$> count text
  | .keys => (fun keys => { options with keys }) <$> count text
  | .skew => (fun skew => { options with skew }) <$> float text
  | .ttlMs => (fun ttl => { options with ttl }) <$> millis text
  | .produceMs => (fun produceTime => { options with produceTime }) <$> millis text
  | .failureRate => (fun failureRate => { options with failureRate }) <$> float text
  | .abandonRate => (fun abandonRate => { options with abandonRate }) <$> float text
  | .waitMs => (fun wait => { options with wait }) <$> millis text
  | .lockHoldMs => (fun lockHold => { options with lockHold }) <$> millis text
  | .sweepMs => (fun sweepInterval => { options with sweepInterval }) <$> millis text
  | .strategies =>
    .ok { options with strategies := options.strategies ++ text.splitOn "," }
  | .outputCsv =>
    if text.isEmpty then .error .missing else .ok { options with outputPath := some text }
  | .seed => (fun seed => { options with seed }) <$> count text

end Options

end SingleFlight.CommandLine
