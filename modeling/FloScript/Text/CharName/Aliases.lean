/-! Second names of characters: of controls, of abbreviations, and corrected ones. -/
namespace FloScript.Text.CharName

/-- Rows of a table of abbreviated names. -/
def aliases : String :=
  "0|NULL
   1|START OF HEADING
   2|START OF TEXT
   3|END OF TEXT
   4|END OF TRANSMISSION
   5|ENQUIRY
   6|ACKNOWLEDGE
   7|ALERT
   8|BACKSPACE
   9|gv TABULATION
   A|lb FEED
   B|lb TABULATION
   C|f FEED
   D|CARRIAGE RETURN
   E|SHIFT OUT
   F|SHIFT IN
   10|DATA LINK ESCAPE
   11|DEVICE CONTROL o
   12|DEVICE CONTROL t
   13|DEVICE CONTROL h
   14|DEVICE CONTROL u
   15|nv ACKNOWLEDGE
   16|SYNCHRONOUS IDLE
   17|END OF TRANSMISSION bl
   18|CANCEL
   19|END OF md
   1A|SUBSTITUTE
   1B|ESCAPE
   1C|INFORMATION sp u
   1D|INFORMATION sp h
   1E|INFORMATION sp t
   1F|INFORMATION sp o
   20|SP
   7F|DELETE
   80|PADDING gv
   81|hi OCTET PRESET
   82|BREAK PERMITTED HERE
   83|NO BREAK HERE
   84|id
   85|NEXT lb
   86|START OF SELECTED AREA
   87|END OF SELECTED AREA
   88|gv TABULATION SET
   89|gv TABULATION w JUSTIFICATION
   8A|lb TABULATION SET
   8B|PARTIAL lb fw
   8C|PARTIAL lb BACKWARD
   8D|rv lb FEED
   8E|sn SHIFT t
   8F|sn SHIFT h
   90|DEVICE CONTROL STRING
   91|PRIVATE USE o
   92|PRIVATE USE t
   93|SET TRANSMIT STATE
   94|CANCEL gv
   95|MESSAGE WAITING
   96|START OF GUARDED AREA
   97|END OF GUARDED AREA
   98|START OF STRING
   99|sn GRAPHIC gv INTRODUCER
   9A|sn gv INTRODUCER
   9B|CONTROL SEQUENCE INTRODUCER
   9C|STRING TERMINATOR
   9D|OPERATING SYSTEM COMMAND
   9E|PRIVACY MESSAGE
   9F|APPLICATION PROGRAM COMMAND
   A0|NBSP
   AD|SHY
   1A2|v c l gh
   1A3|v m l gh
   34F|CGJ
   61C|ALM
   709|dx SUBLINEAR cd SKEWED e
   CDE|kd l LLLA
   E9D|LAO l FO FON
   E9F|LAO l FO FAY
   EA3|LAO l RO
   EA5|LAO l LO
   FD0|tj k BKA- SHOG GI MGO RGYAN
   11EC|hl JONGSEONG YESIEUNG-KIYEOK
   11ED|hl JONGSEONG YESIEUNG-SSANGKIYEOK
   11EE|hl JONGSEONG SSANGYESIEUNG
   11EF|hl JONGSEONG YESIEUNG-KHIEUKH
   180B|FVS1
   180C|FVS2
   180D|FVS3
   180E|MVS
   180F|FVS4
   200B|ZWSP
   200C|ZWNJ
   200D|ZWJ
   200E|LRM
   200F|RLM
   202A|LRE
   202B|RLE
   202C|PDF
   202D|LRO
   202E|RLO
   202F|NNBSP
   205F|MMSP
   2060|WJ
   2066|LRI
   2067|RLI
   2068|FSI
   2069|PDI
   2118|WEIERSTRASS ELLIPTIC FUNCTION
   2448|MICR ON US y
   2449|MICR df y
   2B7A|le ta a w d ve st
   2B7C|ri ta a w d ve st
   A015|YI sy ic k
   AA6E|my l KHAMTI LLA
   FE00|VS1
   FE01|VS2
   FE02|VS3
   FE03|VS4
   FE04|VS5
   FE05|VS6
   FE06|VS7
   FE07|VS8
   FE08|VS9
   FE09|VS10
   FE0A|VS11
   FE0B|VS12
   FE0C|VS13
   FE0D|VS14
   FE0E|VS15
   FE0F|VS16
   FE18|PRESENTATION f fo ve r z LENTICULAR bc
   FEFF|BYTE ORDER k
   122D4|cu s NU11 tn
   122D5|cu s NU11 ov NU11 BUR ov BUR
   16E56|MEDEFAIDRIN c l H
   16E57|MEDEFAIDRIN c l NG
   16E76|MEDEFAIDRIN m l H
   16E77|MEDEFAIDRIN m l NG
   1B001|jd l E-1
   1D0C5|en mu y FTHORA SKLIRON CHROMA VASIS
   E0100|VS17
   E0101|VS18
   E0102|VS19
   E0103|VS20
   E0104|VS21
   E0105|VS22
   E0106|VS23
   E0107|VS24
   E0108|VS25
   E0109|VS26
   E010A|VS27
   E010B|VS28
   E010C|VS29
   E010D|VS30
   E010E|VS31
   E010F|VS32
   E0110|VS33
   E0111|VS34
   E0112|VS35
   E0113|VS36
   E0114|VS37
   E0115|VS38
   E0116|VS39
   E0117|VS40
   E0118|VS41
   E0119|VS42
   E011A|VS43
   E011B|VS44
   E011C|VS45
   E011D|VS46
   E011E|VS47
   E011F|VS48
   E0120|VS49
   E0121|VS50
   E0122|VS51
   E0123|VS52
   E0124|VS53
   E0125|VS54
   E0126|VS55
   E0127|VS56
   E0128|VS57
   E0129|VS58
   E012A|VS59
   E012B|VS60
   E012C|VS61
   E012D|VS62
   E012E|VS63
   E012F|VS64
   E0130|VS65
   E0131|VS66
   E0132|VS67
   E0133|VS68
   E0134|VS69
   E0135|VS70
   E0136|VS71
   E0137|VS72
   E0138|VS73
   E0139|VS74
   E013A|VS75
   E013B|VS76
   E013C|VS77
   E013D|VS78
   E013E|VS79
   E013F|VS80
   E0140|VS81
   E0141|VS82
   E0142|VS83
   E0143|VS84
   E0144|VS85
   E0145|VS86
   E0146|VS87
   E0147|VS88
   E0148|VS89
   E0149|VS90
   E014A|VS91
   E014B|VS92
   E014C|VS93
   E014D|VS94
   E014E|VS95
   E014F|VS96
   E0150|VS97
   E0151|VS98
   E0152|VS99
   E0153|VS100
   E0154|VS101
   E0155|VS102
   E0156|VS103
   E0157|VS104
   E0158|VS105
   E0159|VS106
   E015A|VS107
   E015B|VS108
   E015C|VS109
   E015D|VS110
   E015E|VS111
   E015F|VS112
   E0160|VS113
   E0161|VS114
   E0162|VS115
   E0163|VS116
   E0164|VS117
   E0165|VS118
   E0166|VS119
   E0167|VS120
   E0168|VS121
   E0169|VS122
   E016A|VS123
   E016B|VS124
   E016C|VS125
   E016D|VS126
   E016E|VS127
   E016F|VS128
   E0170|VS129
   E0171|VS130
   E0172|VS131
   E0173|VS132
   E0174|VS133
   E0175|VS134
   E0176|VS135
   E0177|VS136
   E0178|VS137
   E0179|VS138
   E017A|VS139
   E017B|VS140
   E017C|VS141
   E017D|VS142
   E017E|VS143
   E017F|VS144
   E0180|VS145
   E0181|VS146
   E0182|VS147
   E0183|VS148
   E0184|VS149
   E0185|VS150
   E0186|VS151
   E0187|VS152
   E0188|VS153
   E0189|VS154
   E018A|VS155
   E018B|VS156
   E018C|VS157
   E018D|VS158
   E018E|VS159
   E018F|VS160
   E0190|VS161
   E0191|VS162
   E0192|VS163
   E0193|VS164
   E0194|VS165
   E0195|VS166
   E0196|VS167
   E0197|VS168
   E0198|VS169
   E0199|VS170
   E019A|VS171
   E019B|VS172
   E019C|VS173
   E019D|VS174
   E019E|VS175
   E019F|VS176
   E01A0|VS177
   E01A1|VS178
   E01A2|VS179
   E01A3|VS180
   E01A4|VS181
   E01A5|VS182
   E01A6|VS183
   E01A7|VS184
   E01A8|VS185
   E01A9|VS186
   E01AA|VS187
   E01AB|VS188
   E01AC|VS189
   E01AD|VS190
   E01AE|VS191
   E01AF|VS192
   E01B0|VS193
   E01B1|VS194
   E01B2|VS195
   E01B3|VS196
   E01B4|VS197
   E01B5|VS198
   E01B6|VS199
   E01B7|VS200
   E01B8|VS201
   E01B9|VS202
   E01BA|VS203
   E01BB|VS204
   E01BC|VS205
   E01BD|VS206
   E01BE|VS207
   E01BF|VS208
   E01C0|VS209
   E01C1|VS210
   E01C2|VS211
   E01C3|VS212
   E01C4|VS213
   E01C5|VS214
   E01C6|VS215
   E01C7|VS216
   E01C8|VS217
   E01C9|VS218
   E01CA|VS219
   E01CB|VS220
   E01CC|VS221
   E01CD|VS222
   E01CE|VS223
   E01CF|VS224
   E01D0|VS225
   E01D1|VS226
   E01D2|VS227
   E01D3|VS228
   E01D4|VS229
   E01D5|VS230
   E01D6|VS231
   E01D7|VS232
   E01D8|VS233
   E01D9|VS234
   E01DA|VS235
   E01DB|VS236
   E01DC|VS237
   E01DD|VS238
   E01DE|VS239
   E01DF|VS240
   E01E0|VS241
   E01E1|VS242
   E01E2|VS243
   E01E3|VS244
   E01E4|VS245
   E01E5|VS246
   E01E6|VS247
   E01E7|VS248
   E01E8|VS249
   E01E9|VS250
   E01EA|VS251
   E01EB|VS252
   E01EC|VS253
   E01ED|VS254
   E01EE|VS255
   E01EF|VS256
   0|NUL
   1|SOH
   2|STX
   3|ETX
   4|EOT
   5|ENQ
   6|ACK
   7|BEL
   8|BS
   9|hr TABULATION
   A|NEW lb
   B|ve TABULATION
   C|FF
   D|CR
   E|LOCKING-SHIFT o
   F|LOCKING-SHIFT ze
   10|DLE
   11|DC1
   12|DC2
   13|DC3
   14|DC4
   15|NAK
   16|SYN
   17|ETB
   18|CAN
   19|EOM
   1A|SUB
   1B|ESC
   1C|FILE sp
   1D|GROUP sp
   1E|RECORD sp
   1F|UNIT sp
   7F|DEL
   80|PAD
   81|HOP
   82|BPH
   83|NBH
   84|IND
   85|NEL
   86|SSA
   87|ESA
   88|hr TABULATION SET
   89|hr TABULATION w JUSTIFICATION
   8A|ve TABULATION SET
   8B|PARTIAL lb do
   8C|PARTIAL lb UP
   8D|rv id
   8E|SINGLE-SHIFT-2
   8F|SINGLE-SHIFT-3
   90|DCS
   91|PRIVATE USE-1
   92|PRIVATE USE-2
   93|STS
   94|CCH
   95|MW
   96|START OF PROTECTED AREA
   97|END OF PROTECTED AREA
   98|SOS
   99|SGC
   9A|SCI
   9B|CSI
   9C|ST
   9D|OSC
   9E|PM
   9F|APC
   FEFF|BOM
   9|HT
   A|END OF lb
   B|VT
   E|SO
   F|SI
   1C|FS
   1D|GS
   1E|RS
   1F|US
   88|HTS
   89|HTJ
   8A|VTS
   8B|PLD
   8C|PLU
   8D|RI
   8E|SS2
   8F|SS3
   91|PU1
   92|PU2
   96|SPA
   97|EPA
   FEFF|ZWNBSP
   9|TAB
   A|LF
   A|NL
   A|EOL"

end FloScript.Text.CharName
