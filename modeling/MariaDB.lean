import MariaDB.Library.Radix
import MariaDB.Library.Carry
import MariaDB.Library.Wildcard
import MariaDB.Library.BinarySearch
import MariaDB.Library.Rfc8259
import MariaDB.Library.DecimalText
import MariaDB.Library.SignMagnitude
import MariaDB.Library.BinaryFloat
import MariaDB.Library.Gregorian
import MariaDB.Library.BitFields
import MariaDB.Library.ByteStore
import MariaDB.Decimal.Basic
import MariaDB.Decimal.Bin
import MariaDB.Decimal.Compare
import MariaDB.Decimal.BinFormat
import MariaDB.Decimal.Writer
import MariaDB.Decimal.BinOrder
import MariaDB.Decimal.Add
import MariaDB.Decimal.Sum
import MariaDB.Decimal.Difference
import MariaDB.Decimal.Exact
import MariaDB.Redo.Record
import MariaDB.Redo.Apply
import MariaDB.Mach.Compressed
import MariaDB.Redo.Varint
import MariaDB.Redo.Writer
import MariaDB.Redo.Layout
import MariaDB.Redo.Replay
import MariaDB.Temporal.Packed
import MariaDB.Temporal.Time
import MariaDB.Temporal.Datetime
import MariaDB.Temporal.Number
import MariaDB.Temporal.Text
import MariaDB.Temporal.TextRead
import MariaDB.Temporal.TextRoundTrip
import MariaDB.Strings.Wildcmp
import MariaDB.Dyncol.Format
import MariaDB.Dyncol.Scalar
import MariaDB.Json.Scanner
import MariaDB.Sql.IntArith
import MariaDB.Temporal.PackTime
import MariaDB.Temporal.Daynr
import MariaDB.Temporal.Week
import MariaDB.Sql.AutoIncrement
import MariaDB.Decimal.Integer
import MariaDB.Decimal.Round
import MariaDB.Decimal.Shift
import MariaDB.Decimal.FromString
import MariaDB.Sql.FieldSort
import MariaDB.Sql.Partition
import MariaDB.Strings.Strtoll10
import MariaDB.Getopt.Numeric
import MariaDB.Strings.Base64
import MariaDB.Strings.Strtoll10Read
import MariaDB.Strings.Strntol
